/-
The name of a machine in a URL: a domain, or an address written in numbers. It is read as the URL
library of the HTTP client documents it.

* `HostName`: a domain, or an address of 32 or of 128 bits;
* `HostName.parse?`: reads the name as it stands in a URL;
* `HostName.text`: its one written form.
-/
import ReplicatedCache.Domain.Basic
import ReplicatedCache.Http.Percent
import ReplicatedCache.Text.Numeral
import ReplicatedCache.Text.Pieces

namespace ReplicatedCache.Http

/-- The name of a machine. -/
inductive HostName where
  /-- A domain, in plain characters and in lower case. -/
  | domain (name : List Char)
  /-- An address of four bytes, as one number. -/
  | short (address : Nat)
  /-- An address of eight pieces of two bytes. -/
  | long (pieces : List Nat)
  deriving DecidableEq, Repr

namespace HostName

/-! ### Addresses of four bytes -/

/-- A number in an address: sixteen is its base behind `0x`, and eight behind another zero. -/
def number? : List Char → Option Nat
  | '0' :: 'x' :: [] | '0' :: 'X' :: [] => some 0
  | '0' :: 'x' :: cs | '0' :: 'X' :: cs => Text.inBase? 16 cs
  | '0' :: c :: cs => Text.inBase? 8 (c :: cs)
  | cs => Text.inBase? 10 cs

/-- The pieces of a name between its dots, without an empty one at the end. -/
def dottedPieces (name : List Char) : List (List Char) :=
  let pieces := Text.splitWhere (fun c => c = '.') name
  if pieces.getLast? = some [] ∧ pieces.length ≠ 1 then pieces.dropLast else pieces

/-- Whether the last piece of a name is a number, so that the name has to be an address. -/
def endsInNumber (name : List Char) : Bool :=
  match (dottedPieces name).getLast? with
  | some piece => (piece ≠ [] && piece.all Char.isDigit) || (number? piece).isSome
  | none => false

/-- The address that numbers spell: each but the last is one byte, and the last fills the rest. -/
def join? : (room : Nat) → List Nat → Option Nat
  | 0, _ | _, [] => none
  | room + 1, [last] => if last < Nat.pow 256 (room + 1) then some last else none
  | room + 1, byte :: rest =>
      if byte < 256 then (join? room rest).map fun value => byte * Nat.pow 256 room + value
      else none

/-- Reads an address of four bytes, in one to four numbers. -/
def short? (name : List Char) : Option HostName :=
  ((dottedPieces name).mapM number?).bind fun numbers => (join? 4 numbers).map short

/-! ### Addresses of sixteen bytes -/

/-- A byte in decimal digits, without a zero in front. -/
def byte? (cs : List Char) : Option Nat :=
  match Text.inBase? 10 cs with
  | some n => if n < 256 ∧ (cs.head? ≠ some '0' ∨ cs.length = 1) then some n else none
  | none => none

/-- The two pieces that an address of four bytes at the end of one of sixteen bytes stands for. -/
def tail? (cs : List Char) : Option (List Nat) :=
  match (Text.splitWhere (fun c => c = '.') cs).mapM byte? with
  | some [a, b, c, d] => some [256 * a + b, 256 * c + d]
  | _ => none

/-- A piece of two bytes in hexadecimal digits. -/
def piece? (cs : List Char) : Option Nat := if cs.length ≤ 4 then Text.inBase? 16 cs else none

/-- Pieces, of which the last may be an address of four bytes if `isEnd` holds. -/
def piecesFrom? (isEnd : Bool) : List (List Char) → Option (List Nat)
  | [] => some []
  | [last] => if isEnd && '.' ∈ last then tail? last else (piece? last).map fun n => [n]
  | first :: rest => do
      let n ← piece? first
      let more ← piecesFrom? isEnd rest
      some (n :: more)

/-- The pieces of a text between colons; an empty text has none. -/
def pieces? (isEnd : Bool) (cs : List Char) : Option (List Nat) :=
  if cs = [] then some [] else piecesFrom? isEnd (Text.splitWhere (fun c => c = ':') cs)

/-- What stands before and behind the first two colons in a row. -/
def cutAtGap? : List Char → Option (List Char × List Char)
  | ':' :: ':' :: rest => some ([], rest)
  | c :: rest => (cutAtGap? rest).map fun (before, behind) => (c :: before, behind)
  | [] => none

/-- Reads an address of sixteen bytes. Two colons stand for as many zeros as are missing, but for
at least one. -/
def long? (cs : List Char) : Option HostName :=
  match cutAtGap? cs with
  | none => (pieces? true cs).bind fun ps => if ps.length = 8 then some (long ps) else none
  | some (before, behind) => do
      let front ← pieces? false before
      let back ← pieces? true behind
      let zeros := 8 - (front.length + back.length)
      if zeros = 0 then none else some (long (front ++ List.replicate zeros 0 ++ back))

/-- The number of zeros at the start of some pieces. -/
def zerosAtStart (ps : List Nat) : Nat := (ps.takeWhile (· = 0)).length

/-- Where the longest run of zeros starts; the first of several. -/
def gapStart (ps : List Nat) : Nat :=
  (List.range ps.length).foldl
    (fun best i => if zerosAtStart (ps.drop best) < zerosAtStart (ps.drop i) then i else best) 0

/-- Pieces with colons between them. -/
def colonText (ps : List Nat) : List Char :=
  [':'].intercalate (ps.map (Nat.toDigits 16))

/-- The written form of an address of sixteen bytes: two colons stand for its longest run of two
or more zeros. -/
def longText (ps : List Nat) : List Char :=
  let start := gapStart ps
  let zeros := zerosAtStart (ps.drop start)
  if zeros < 2 then colonText ps
  else colonText (ps.take start) ++ [':', ':'] ++ colonText (ps.drop (start + zeros))

/-! ### Names -/

/-- Reads a name as it stands in a URL: an address of sixteen bytes in brackets, or else a domain
with escapes, which is an address if it ends in a number. -/
def parse? (cs : List Char) : Option HostName :=
  match cs with
  | '[' :: rest =>
      if rest.getLast? = some ']' then long? rest.dropLast else none
  | cs => do
      let name ← Utf8.decode (Percent.decode (Utf8.encode (String.ofList cs)))
      let name ← Domain.plain? name.toList
      if endsInNumber name then short? name else some (domain name)

/-- The four bytes of an address. -/
def bytes (address : Nat) : List Nat :=
  [address / Nat.pow 256 3, address / Nat.pow 256 2 % 256, address / 256 % 256, address % 256]

/-- The written form of a name. -/
def text : HostName → List Char
  | domain name => name
  | short address => ['.'].intercalate ((bytes address).map fun n => n.repr.toList)
  | long pieces => '[' :: longText pieces ++ [']']

end HostName

end ReplicatedCache.Http
