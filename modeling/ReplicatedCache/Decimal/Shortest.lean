/-
The decimal text of a double with the fewest digits that read back as the same double:

* `Binary64.roundsTo`: the fractions that a reader rounds to a given double;
* `Binary64.shortest`: the fewest digits among those, nearest to the double itself;
* `DecimalStyle`: where the positional form ends and the scientific one begins;
* `Binary64.text`: the digits laid out in that style.
-/
import ReplicatedCache.Decimal.Binary64

namespace ReplicatedCache

/-- The number `digits * 10 ^ power`. -/
structure Decimal where
  digits : Nat
  power : Int
  deriving DecidableEq, Repr

namespace Binary64

/-- The number as a quotient of natural numbers. -/
def ratio (x : Binary64) : Nat × Nat := scale x.significand 1 x.exponent

/-- Whether `n / d` is read as `x`: it lies between the midpoints to the neighbours of `x`, the
midpoints themselves included when the significand of `x` is even. -/
def roundsTo (x : Binary64) (n d : Nat) : Bool :=
  let (xn, xd) := scale 1 1 (x.exponent - 2)
  let m := 4 * x.significand
  let narrow := x.significand = Nat.pow 2 52 ∧ minExponent < x.exponent
  let low := (if narrow then m - 1 else m - 2) * xn * d
  let high := (m + 2) * xn * d
  let value := n * xd
  if x.significand % 2 = 0 then low ≤ value && value ≤ high
  else low < value && value < high

/-- The power of ten of the first digit of `num / den`, searched from `power` downwards. -/
def leadingPower (num den : Nat) : (fuel : Nat) → (power : Int) → Int
  | 0, power => power
  | fuel + 1, power =>
      let (n, d) := if 0 ≤ power then (num, den * Nat.pow 10 power.toNat)
        else (num * Nat.pow 10 (-power).toNat, den)
      if d ≤ n then power else leadingPower num den fuel (power - 1)

/-- Of the two decimals with last digit at `10 ^ power` that are next to `x`, one that reads as
`x`; of two, the nearer one, and the even one of two equally near ones. -/
def onGrid (x : Binary64) (power : Int) : Option Decimal :=
  let (xn, xd) := x.ratio
  let (n, d) := if 0 ≤ power then (xn, xd * Nat.pow 10 power.toNat)
    else (xn * Nat.pow 10 (-power).toNat, xd)
  let reads (digits : Nat) : Bool :=
    if 0 ≤ power then x.roundsTo (digits * Nat.pow 10 power.toNat) 1
    else x.roundsTo digits (Nat.pow 10 (-power).toNat)
  let near := roundHalfEven n d
  let other := if near = n / d then near + 1 else n / d
  if reads near then some ⟨near, power⟩
  else if reads other then some ⟨other, power⟩
  else none

/-- The first grid that has a decimal reading as `x`, `count` grids being tried. -/
def firstGrid (x : Binary64) : (count : Nat) → (power : Int) → Option Decimal
  | 0, _ => none
  | count + 1, power =>
      match x.onGrid power with
      | some found => some found
      | none => firstGrid x count (power - 1)

/-- The most digits that any double needs. -/
def maxDigits : Nat := 17

/-- The decimal with the fewest digits that reads as `x`. -/
def shortest (x : Binary64) : Decimal :=
  if x.significand = 0 then ⟨0, 0⟩
  else
    let (n, d) := x.ratio
    let start := max ((n.log2 : Int) - (d.log2 : Int)) 0 + 1
    (firstGrid x maxDigits (leadingPower n d 1500 start)).getD ⟨0, 0⟩

end Binary64

/-- How a decimal is laid out: positionally when its first digit is at a power of ten in the
given range, else in scientific form. -/
structure DecimalStyle where
  leastPositional : Int
  mostPositional : Int

namespace Decimal

/-- The digits without trailing zeros; `fuel` bounds the number of zeros taken off. -/
def strip : (fuel : Nat) → Decimal → Decimal
  | 0, x => x
  | fuel + 1, x =>
      if x.digits ≠ 0 ∧ x.digits % 10 = 0 then strip fuel ⟨x.digits / 10, x.power + 1⟩ else x

/-- The text of a decimal: at least one digit stands after the point of the positional form, and
the exponent of the scientific form has neither a plus sign nor padding. -/
def layout (style : DecimalStyle) (x : Decimal) : String :=
  if x.digits = 0 then "0.0"
  else
    let x := strip 400 x
    let text := x.digits.repr
    let lead : Int := x.power + text.length - 1
    if style.leastPositional ≤ lead ∧ lead ≤ style.mostPositional then
      if 0 ≤ x.power then text ++ String.ofList (List.replicate x.power.toNat '0') ++ ".0"
      else if 0 ≤ lead then
        let whole := (lead + 1).toNat
        String.ofList (text.toList.take whole) ++ "." ++ String.ofList (text.toList.drop whole)
      else "0." ++ String.ofList (List.replicate (-lead - 1).toNat '0') ++ text
    else
      let mantissa := match text.toList with
        | [d] => String.singleton d
        | d :: rest => String.singleton d ++ "." ++ String.ofList rest
        | [] => ""
      let exponent := if lead < 0 then "-" ++ (-lead).toNat.repr else lead.toNat.repr
      mantissa ++ "e" ++ exponent

end Decimal

/-- Numbers in messages are positional from `10 ^ -5` up to 16 digits before the point. -/
def messageStyle : DecimalStyle := ⟨-5, 15⟩

/-- The text of a double in messages. -/
def Binary64.text (x : Binary64) : String := x.shortest.layout messageStyle

end ReplicatedCache
