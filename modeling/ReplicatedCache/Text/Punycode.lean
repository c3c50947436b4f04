/-
Labels of domains in letters, digits and hyphens only, for labels that hold other characters:

* `Punycode.encode`: the plain characters of a label, a hyphen, and a code for all the others;
* `Punycode.decode?`: the label again.

The code lists the other characters in ascending order. Each stands as the number of steps that an
insertion point walks from the last insertion to this one, if it walks through all places for one
character before it goes on to the next character. The numbers are written in base 36 with a
smallest digit that depends on the numbers before, so that each number shows where it ends.
-/
namespace ReplicatedCache.Punycode

/-- The digit of a value below 36: the letters, then the ten digits. -/
def digit (value : Nat) : Char :=
  if value < 26 then Char.ofNat ('a'.toNat + value) else Char.ofNat ('0'.toNat + (value - 26))

/-- The least digit that does not end a number, at a place of the number. -/
def threshold (bias place : Nat) : Nat := min 26 (max 1 (36 * place - bias))

/-- The digits of a number, from a place on; `fuel` bounds their count. -/
def digits (bias : Nat) : (fuel place number : Nat) → List Char
  | 0, _, _ => []
  | fuel + 1, place, number =>
      let least := threshold bias place
      if number < least then [digit number]
      else digit (least + (number - least) % (36 - least)) ::
        digits bias fuel (place + 1) ((number - least) / (36 - least))

/-- How often a number is divided by 35 until it is at most 455, and what is left. -/
def shrink : (fuel number : Nat) → Nat × Nat
  | 0, number => (0, number)
  | fuel + 1, number =>
      if 455 < number then
        let (times, rest) := shrink fuel (number / 35)
        (times + 1, rest)
      else (0, number)

/-- The bias for the number after `number`, once `count` characters stand. -/
def nextBias (number count : Nat) (first : Bool) : Nat :=
  let number := if first then number / 700 else number / 2
  let (times, rest) := shrink number (number + number / count)
  36 * times + 36 * rest / (rest + 38)

/-- The state of the code between two characters of a label. -/
structure Progress where
  /-- The steps walked since the last insertion. -/
  walked : Nat
  bias : Nat
  /-- The number of characters that stand. -/
  count : Nat
  /-- Whether nothing has been inserted yet. -/
  fresh : Bool
  /-- The code so far. -/
  code : List Char

namespace Progress

/-- The insertion point passes one character of the label while it is at the character with the
code point `point`, and stops there if it is this one. -/
def pass (point : Nat) (p : Progress) (c : Char) : Progress :=
  if c.toNat < point then { p with walked := p.walked + 1 }
  else if c.toNat = point then
    { walked := 0
      bias := nextBias p.walked (p.count + 1) p.fresh
      count := p.count + 1
      fresh := false
      code := p.code ++ digits p.bias (p.walked + 1) 1 p.walked }
  else p

/-- Inserts the characters with the given code points, of which the next could have been
`next`. -/
def insertAll (label : List Char) : (next : Nat) → List Nat → Progress → Progress
  | _, [], p => p
  | next, point :: points, p =>
      let p := { p with walked := p.walked + (point - next) * (p.count + 1) }
      let p := label.foldl (pass point) p
      insertAll label (point + 1) points { p with walked := p.walked + 1 }

end Progress

/-- The first code point that is not plain. -/
def plainLimit : Nat := 0x80

/-- Adds a code point to ascending ones, unless it is one of them. -/
def addPoint (point : Nat) : List Nat → List Nat
  | [] => [point]
  | other :: points =>
      if point < other then point :: other :: points
      else if point = other then other :: points
      else other :: addPoint point points

/-- A label in plain characters only. -/
def encode (label : List Char) : List Char :=
  let plain := label.filter fun c => c.toNat < plainLimit
  let points := (label.filter fun c => plainLimit ≤ c.toNat).foldr (fun c => addPoint c.toNat) []
  let start : Progress := ⟨0, 72, plain.length, true, []⟩
  plain ++ (if plain = [] then [] else ['-']) ++
    (start.insertAll label plainLimit points).code

/-! ### Decoding -/

/-- The value of a digit. -/
def value? (c : Char) : Option Nat :=
  if 'a' ≤ c ∧ c ≤ 'z' then some (c.toNat - 'a'.toNat)
  else if c.isDigit then some (26 + (c.toNat - '0'.toNat))
  else none

/-- The number at the start of a code, from a place of it on, and what follows it. -/
def number? (bias : Nat) : (place : Nat) → List Char → Option (Nat × List Char)
  | _, [] => none
  | place, c :: rest => do
      let value ← value? c
      let least := threshold bias place
      if value < least then some (value, rest)
      else do
        let (more, rest) ← number? bias (place + 1) rest
        some (value + (36 - least) * more, rest)

/-- The character of a code point. -/
def char? (point : Nat) : Option Char :=
  if point.isValidChar then some (Char.ofNat point) else none

/-- Inserts the characters of a code into a label. The insertion point stands at the place `place`
of the label and at the character with the code point `point`; `fuel` bounds the insertions. -/
def insertCode : (fuel : Nat) → (label : List Char) → (place point bias : Nat) → (fresh : Bool) →
    List Char → Option (List Char)
  | _, label, _, _, _, _, [] => some label
  | 0, _, _, _, _, _, _ => none
  | fuel + 1, label, place, point, bias, fresh, code => do
      let (number, code) ← number? bias 1 code
      let count := label.length + 1
      let point := point + (place + number) / count
      let place := (place + number) % count
      let c ← char? point
      insertCode fuel (label.take place ++ c :: label.drop place) (place + 1) point
        (nextBias number count fresh) false code

/-- The label that plain characters stand for: its own plain characters stand before the last
hyphen, if any character does, and the code of the others behind it. -/
def decode? (cs : List Char) : Option (List Char) :=
  let code := (cs.reverse.takeWhile (· ≠ '-')).reverse
  let plain := (cs.take (cs.length - code.length)).dropLast
  if plain = [] then insertCode cs.length [] 0 plainLimit 72 true cs
  else insertCode code.length plain 0 plainLimit 72 true code

end ReplicatedCache.Punycode
