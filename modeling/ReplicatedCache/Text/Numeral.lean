/-
Whole numbers written in digits, as settings and addresses give them:

* `Text.digits?`: the value of a nonempty run of digits;
* `Text.unsigned?`: a number up to a limit, with an optional plus sign;
* `Text.signed?`: a number of a given width in bits, with an optional sign;
* `Text.inBase?`: the value of a nonempty run of digits in a base up to sixteen;
* `Hex.value?`, `Hex.digit`: hexadecimal digits as bytes.
-/
namespace ReplicatedCache.Text

/-- The value of one decimal digit. -/
def digit? (c : Char) : Option Nat :=
  if c.isDigit then some (c.toNat - '0'.toNat) else none

/-- The value of the digits `cs` after digits of value `acc`, if it is at most `limit`. -/
def digitsFrom? (limit acc : Nat) : List Char → Option Nat
  | [] => if acc ≤ limit then some acc else none
  | c :: cs =>
      if limit < acc then none
      else match digit? c with
        | some d => digitsFrom? limit (10 * acc + d) cs
        | none => none

/-- The value of a nonempty run of decimal digits, if it is at most `limit`. -/
def digits? (limit : Nat) : List Char → Option Nat
  | [] => none
  | cs => digitsFrom? limit 0 cs

/-- A number up to `limit`, which may be written with a plus sign. -/
def unsigned? (limit : Nat) (s : String) : Option Nat :=
  match s.toList with
  | '+' :: cs => digits? limit cs
  | cs => digits? limit cs

/-- A number that fits into `bits` bits with a sign, which may be written with either sign. -/
def signed? (bits : Nat) (s : String) : Option Int :=
  let limit := Nat.pow 2 (bits - 1)
  match s.toList with
  | '-' :: cs => (digits? limit cs).map fun n => -(n : Int)
  | '+' :: cs => (digits? (limit - 1) cs).map Int.ofNat
  | cs => (digits? (limit - 1) cs).map Int.ofNat

/-- The value of a digit in a base up to sixteen, in either case. -/
def digitInBase? (base : Nat) (c : Char) : Option Nat :=
  let value :=
    if c.isDigit then c.toNat - '0'.toNat
    else if 'a' ≤ c ∧ c ≤ 'f' then c.toNat - 'a'.toNat + 10
    else if 'A' ≤ c ∧ c ≤ 'F' then c.toNat - 'A'.toNat + 10
    else base
  if value < base then some value else none

/-- The value of a nonempty run of digits in a base up to sixteen. -/
def inBase? (base : Nat) : List Char → Option Nat
  | [] => none
  | cs => cs.foldlM (fun value c => (digitInBase? base c).map fun d => base * value + d) 0

/-- The largest number of 64 bits. -/
def maxWord : Nat := Nat.pow 2 64 - 1

end ReplicatedCache.Text

namespace ReplicatedCache.Hex

/-- The value of a hexadecimal digit, in either case. -/
def value? (b : UInt8) : Option Nat :=
  if 0x30 ≤ b ∧ b ≤ 0x39 then some (b.toNat - 0x30)
  else if 0x41 ≤ b ∧ b ≤ 0x46 then some (b.toNat - 0x41 + 10)
  else if 0x61 ≤ b ∧ b ≤ 0x66 then some (b.toNat - 0x61 + 10)
  else none

/-- The upper-case digit of a value below sixteen. -/
def digit (n : Nat) : UInt8 := UInt8.ofNat (if n < 10 then 0x30 + n else 0x37 + n)

theorem value?_digit {n : Nat} (h : n < 16) : value? (digit n) = some n := by
  revert n; decide

end ReplicatedCache.Hex
