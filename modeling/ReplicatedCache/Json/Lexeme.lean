/-
The smallest parts of a JSON text, read from the front of some bytes. What is accepted, and which
kind of defect is found first, follows the documented behaviour of the JSON library.

* `Json.Defect`: what is wrong with a text;
* `Json.skipBlank`: drops the blanks in front;
* `Json.word`: a fixed word, such as the rest of `null`;
* `Json.readString`: a string after its opening quote;
* `Json.skipString`: the same when the string does not matter, under looser rules;
* `Json.readNumber`, `Json.skipNumber`: a number, of which only its end matters.
-/
import ReplicatedCache.Decimal.Binary64
import ReplicatedCache.Text.Numeral
import ReplicatedCache.Text.Utf8

namespace ReplicatedCache.Json

/-- What is wrong with a text, by the first problem met from left to right. -/
inductive Defect where
  /-- The text breaks the rules of JSON. -/
  | malformed
  /-- The text is JSON, but says something else than what is expected. -/
  | mistyped
  /-- The text ends too early. -/
  | truncated
  deriving DecidableEq, Repr

/-- The four blank bytes. -/
def isBlank (b : UInt8) : Bool := b = 0x20 || b = 0x0A || b = 0x09 || b = 0x0D

/-- The bytes behind the blanks in front. -/
def skipBlank (bs : Bytes) : Bytes := bs.dropWhile isBlank

def isDigit (b : UInt8) : Bool := 0x30 ≤ b && b ≤ 0x39

def quoteByte : UInt8 := 0x22

def backslash : UInt8 := 0x5C

def comma : UInt8 := 0x2C

def colon : UInt8 := 0x3A

def openBracket : UInt8 := 0x5B

def closeBracket : UInt8 := 0x5D

def openBrace : UInt8 := 0x7B

def closeBrace : UInt8 := 0x7D

def minus : UInt8 := 0x2D

/-- The bytes behind a fixed word. -/
def word : (expected : Bytes) → Bytes → Except Defect Bytes
  | [], bs => .ok bs
  | _ :: _, [] => .error .truncated
  | e :: expected, b :: bs => if b = e then word expected bs else .error .malformed

/-- The bytes behind the colon after the name of a member. -/
def skipColon (bs : Bytes) : Except Defect Bytes :=
  match skipBlank bs with
  | [] => .error .truncated
  | b :: rest => if b = colon then .ok rest else .error .malformed

/-! ### Strings -/

/-- What the byte after a backslash stands for, if that is a single byte. -/
def unescape? (b : UInt8) : Option UInt8 :=
  if b = 0x22 then some 0x22
  else if b = 0x5C then some 0x5C
  else if b = 0x2F then some 0x2F
  else if b = 0x62 then some 0x08
  else if b = 0x66 then some 0x0C
  else if b = 0x6E then some 0x0A
  else if b = 0x72 then some 0x0D
  else if b = 0x74 then some 0x09
  else none

/-- Whether a 16-bit unit is the first half of a pair. -/
def isLead (n : Nat) : Bool := 0xD800 ≤ n && n ≤ 0xDBFF

/-- Whether a 16-bit unit is the second half of a pair. -/
def isTrail (n : Nat) : Bool := 0xDC00 ≤ n && n ≤ 0xDFFF

/-- The code point of a pair of 16-bit units. -/
def joinPair (lead trail : Nat) : Nat := 0x10000 + (lead - 0xD800) * 0x400 + (trail - 0xDC00)

/-- Where the reader of a string stands. -/
inductive StringState where
  | plain
  /-- Behind a backslash. -/
  | escaped
  /-- Inside a numeric escape: `needed` digits are still to come, those so far have the value
  `value`, and `lead` is the first half of a pair if this is to be the second. -/
  | numeric (needed value : Nat) (lead : Option Nat)
  /-- Behind the first half of a pair. -/
  | paired (lead : Nat)
  /-- Behind the first half of a pair and a backslash. -/
  | pairedEscape (lead : Nat)
  deriving DecidableEq, Repr

/-- The fault of a numeric escape of which `needed` digits were to come when a byte appeared that
is none, with `behind` bytes behind it: an escape cut off by the end of the text is truncated. -/
def badDigit (needed behind : Nat) : Defect :=
  if behind + 1 < needed then .truncated else .malformed

/-- What the 16-bit unit of a complete numeric escape leads to: the bytes it adds and the state
behind it. -/
def numericEscape (unit : Nat) (lead : Option Nat) : Except Defect (Bytes × StringState) :=
  match lead with
  | none =>
      if isTrail unit then .error .malformed
      else if isLead unit then .ok ([], .paired unit)
      else .ok (String.utf8EncodeChar (Char.ofNat unit), .plain)
  | some first =>
      if isTrail unit then
        .ok (String.utf8EncodeChar (Char.ofNat (joinPair first unit)), .plain)
      else .error .malformed

/-- Reads on in a string, where `acc` holds the bytes read so far, last byte first. -/
def readStringFrom (acc : Bytes) : StringState → Bytes → Except Defect (String × Bytes)
  | _, [] => .error .truncated
  | .plain, b :: bs =>
      if b = quoteByte then
        match Utf8.decode acc.reverse with
        | some s => .ok (s, bs)
        | none => .error .malformed
      else if b = backslash then readStringFrom acc .escaped bs
      else if b < 0x20 then .error .malformed
      else readStringFrom (b :: acc) .plain bs
  | .escaped, b :: bs =>
      if b = 0x75 then readStringFrom acc (.numeric 4 0 none) bs
      else match unescape? b with
        | some c => readStringFrom (c :: acc) .plain bs
        | none => .error .malformed
  | .numeric needed value lead, b :: bs =>
      match Hex.value? b with
      | none => .error (badDigit needed bs.length)
      | some d =>
          if needed ≤ 1 then
            match numericEscape (16 * value + d) lead with
            | .ok (added, state) => readStringFrom (added.reverse ++ acc) state bs
            | .error defect => .error defect
          else readStringFrom acc (.numeric (needed - 1) (16 * value + d) lead) bs
  | .paired lead, b :: bs =>
      if b = backslash then readStringFrom acc (.pairedEscape lead) bs else .error .malformed
  | .pairedEscape lead, b :: bs =>
      if b = 0x75 then readStringFrom acc (.numeric 4 0 (some lead)) bs else .error .malformed

/-- Reads a string behind its opening quote. -/
def readString (bs : Bytes) : Except Defect (String × Bytes) := readStringFrom [] .plain bs

/-- Skips the rest of a string. Escapes must be complete, but halves of pairs may stand alone and
the bytes need not be UTF-8. -/
def skipStringFrom : StringState → Bytes → Except Defect Bytes
  | _, [] => .error .truncated
  | .plain, b :: bs =>
      if b = quoteByte then .ok bs
      else if b = backslash then skipStringFrom .escaped bs
      else if b < 0x20 then .error .malformed
      else skipStringFrom .plain bs
  | .escaped, b :: bs =>
      if b = 0x75 then skipStringFrom (.numeric 4 0 none) bs
      else match unescape? b with
        | some _ => skipStringFrom .plain bs
        | none => .error .malformed
  | .numeric needed _ lead, b :: bs =>
      match Hex.value? b with
      | none => .error (badDigit needed bs.length)
      | some _ =>
          if needed ≤ 1 then skipStringFrom .plain bs
          else skipStringFrom (.numeric (needed - 1) 0 lead) bs
  | .paired _, _ :: bs => skipStringFrom .plain bs
  | .pairedEscape _, _ :: bs => skipStringFrom .plain bs

/-- Skips a string behind its opening quote. -/
def skipString (bs : Bytes) : Except Defect Bytes := skipStringFrom .plain bs

/-! ### Numbers -/

/-- The digits read of a number: `significand * 10 ^ power`, as far as 64 bits hold them. -/
structure Digits where
  significand : Nat
  power : Int
  /-- Whether a digit has been left out already. -/
  clipped : Bool
  deriving DecidableEq, Repr

namespace Digits

/-- The largest significand that is kept. -/
def limit : Nat := Nat.pow 2 64 - 1

/-- Takes a digit before the point; digits that do not fit raise the power instead. -/
def addWhole (x : Digits) (b : UInt8) : Digits :=
  let n := 10 * x.significand + (b.toNat - 0x30)
  if x.clipped || limit < n then { x with power := x.power + 1, clipped := true }
  else { x with significand := n }

/-- Takes a digit behind the point; digits that do not fit are left out. -/
def addFraction (x : Digits) (b : UInt8) : Digits :=
  let n := 10 * x.significand + (b.toNat - 0x30)
  if x.clipped || limit < n then { x with clipped := true }
  else { x with significand := n, power := x.power - 1 }

/-- The least quotient that rounds to more than the largest double. -/
def overflow : Nat := Nat.pow 2 1024 - Nat.pow 2 970

/-- Whether the number is too large for a double, the significand and the power of ten being
rounded before they are multiplied. -/
def tooLarge (x : Digits) : Bool :=
  if x.power < 0 then false
  else if 308 < x.power then x.significand ≠ 0
  else
    let m := Binary64.ofNat x.significand
    let p := Binary64.ofNat (Nat.pow 10 x.power.toNat)
    let (n, d) := Binary64.scale (m.significand * p.significand) 1 (m.exponent + p.exponent)
    d * overflow ≤ n

/-- Ends a number: it must not be too large. -/
def finish (x : Digits) (rest : Bytes) : Except Defect Bytes :=
  if x.tooLarge then .error .malformed else .ok rest

end Digits

/-- The bytes of a number behind the letter of its exponent, with the sign split off. -/
def exponentSign (bs : Bytes) : Bool × Bytes :=
  match bs with
  | b :: rest => if b = 0x2B then (true, rest) else if b = minus then (false, rest) else (true, bs)
  | [] => (true, [])

/-- Whether a byte starts an exponent. -/
def isExponentLetter (b : UInt8) : Bool := b = 0x65 || b = 0x45

/-- The largest exponent that is kept. -/
def maxExponent : Nat := Nat.pow 2 31 - 1

/-- Reads the exponent of a number behind its letter. -/
def readExponent (x : Digits) (bs : Bytes) : Except Defect Bytes :=
  let (positive, bs) := exponentSign bs
  match bs with
  | [] => .error .truncated
  | b :: _ =>
      if isDigit b then
        let e := (bs.takeWhile isDigit).foldl (fun e b => 10 * e + (b.toNat - 0x30)) 0
        let rest := bs.dropWhile isDigit
        if maxExponent < e then
          if x.significand ≠ 0 ∧ positive then .error .malformed else .ok rest
        else
          Digits.finish { x with power := if positive then x.power + e else x.power - e } rest
      else .error .malformed

/-- Reads what may follow the fraction of a number. -/
def readAfterFraction (x : Digits) (bs : Bytes) : Except Defect Bytes :=
  match bs with
  | b :: rest => if isExponentLetter b then readExponent x rest else x.finish bs
  | [] => x.finish bs

/-- Reads what may follow the digits before the point. -/
def readAfterWhole (x : Digits) (bs : Bytes) : Except Defect Bytes :=
  match bs with
  | [] => x.finish bs
  | b :: rest =>
      if b = 0x2E then
        match rest with
        | [] => .error .truncated
        | d :: _ =>
            if isDigit d then
              readAfterFraction ((rest.takeWhile isDigit).foldl Digits.addFraction
                { x with clipped := false }) (rest.dropWhile isDigit)
            else .error .malformed
      else if isExponentLetter b then readExponent x rest
      else x.finish bs

/-- Reads a number behind its sign and returns the bytes after it. -/
def readUnsigned (bs : Bytes) : Except Defect Bytes :=
  match bs with
  | [] => .error .truncated
  | b :: rest =>
      if b = 0x30 then
        match rest with
        | d :: _ => if isDigit d then .error .malformed else readAfterWhole ⟨0, 0, false⟩ rest
        | [] => readAfterWhole ⟨0, 0, false⟩ rest
      else if isDigit b then
        readAfterWhole ((bs.takeWhile isDigit).foldl Digits.addWhole ⟨0, 0, false⟩)
          (bs.dropWhile isDigit)
      else .error .malformed

/-- The bytes behind a minus sign, if there is one. -/
def dropMinus (bs : Bytes) : Bytes :=
  match bs with
  | b :: rest => if b = minus then rest else bs
  | [] => []

/-- Reads a number and returns the bytes after it. -/
def readNumber (bs : Bytes) : Except Defect Bytes := readUnsigned (dropMinus bs)

/-- Skips at least one digit; where there is none the number is malformed, even at the end of the
text. -/
def skipDigits (bs : Bytes) : Except Defect Bytes :=
  match bs with
  | b :: rest => if isDigit b then .ok (rest.dropWhile isDigit) else .error .malformed
  | [] => .error .malformed

/-- Skips the exponent of a number, if it has one. -/
def skipExponent (bs : Bytes) : Except Defect Bytes :=
  match bs with
  | b :: rest => if isExponentLetter b then skipDigits (exponentSign rest).2 else .ok bs
  | [] => .ok bs

/-- Skips what may follow the digits before the point. -/
def skipAfterWhole (bs : Bytes) : Except Defect Bytes :=
  match bs with
  | b :: rest => if b = 0x2E then (skipDigits rest).bind skipExponent else skipExponent bs
  | [] => .ok bs

/-- Skips a number of any size. -/
def skipNumber (bs : Bytes) : Except Defect Bytes :=
  match dropMinus bs with
  | [] => .error .malformed
  | b :: rest =>
      if b = 0x30 then
        match rest with
        | d :: _ => if isDigit d then .error .malformed else skipAfterWhole rest
        | [] => skipAfterWhole rest
      else if isDigit b then skipAfterWhole (rest.dropWhile isDigit)
      else .error .malformed

end ReplicatedCache.Json
