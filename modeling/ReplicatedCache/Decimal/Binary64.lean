/-
Nonnegative double-precision numbers, computed exactly:

* `Binary64`: a number `significand * 2 ^ exponent`;
* `Binary64.ofRatio`: the double nearest to a quotient, an exact tie going to the even
  significand;
* `Binary64.ofNat`, `Binary64.div`: the special cases for counts and their quotients;
* `Binary64.bits`: the 64 bits of the standard encoding.
-/
namespace ReplicatedCache

/-- The number `significand * 2 ^ exponent`. A number other than zero has a significand of 53
bits, or of fewer bits together with the least exponent. -/
structure Binary64 where
  significand : Nat
  exponent : Int
  deriving DecidableEq, Repr

namespace Binary64

/-- The exponent of the smallest doubles. -/
def minExponent : Int := -1074

def zero : Binary64 := ⟨0, minExponent⟩

/-- The nearest natural number to `num / den`, the even one of two equally near ones. -/
def roundHalfEven (num den : Nat) : Nat :=
  let q := num / den
  let r := num % den
  if 2 * r < den then q
  else if den < 2 * r then q + 1
  else if q % 2 = 0 then q else q + 1

/-- `n * 2 ^ e`, as a quotient of natural numbers scaled by a power of two. -/
def scale (num den : Nat) (e : Int) : Nat × Nat :=
  if 0 ≤ e then (num * Nat.pow 2 e.toNat, den) else (num, den * Nat.pow 2 (-e).toNat)

/-- The exponent at which `num / den` has a significand of 53 bits. -/
def exponentFor (num den : Nat) : Int :=
  let guess : Int := (num.log2 : Int) - (den.log2 : Int) - 53
  let fits (e : Int) : Bool :=
    let (n, d) := scale num den (-e)
    n < d * Nat.pow 2 53
  max (if fits guess then guess else guess + 1) minExponent

/-- The double nearest to `num / den`, for quotients below the largest doubles. -/
def ofRatio (num den : Nat) : Binary64 :=
  if num = 0 then zero
  else
    let e := exponentFor num den
    let (n, d) := scale num den (-e)
    let m := roundHalfEven n d
    if m = Nat.pow 2 53 then ⟨Nat.pow 2 52, e + 1⟩ else ⟨m, e⟩

/-- The double nearest to a natural number. -/
def ofNat (n : Nat) : Binary64 := ofRatio n 1

/-- The double nearest to the quotient of two doubles. -/
def div (x y : Binary64) : Binary64 :=
  let (n, d) := scale x.significand y.significand (x.exponent - y.exponent)
  ofRatio n d

/-- The 64 bits of the number: the biased exponent above 52 bits of fraction. -/
def bits (x : Binary64) : Nat :=
  if x.significand < Nat.pow 2 52 then x.significand
  else (x.exponent - minExponent + 1).toNat * Nat.pow 2 52 + (x.significand - Nat.pow 2 52)

end Binary64

end ReplicatedCache
