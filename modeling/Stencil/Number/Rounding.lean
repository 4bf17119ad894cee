import Stencil.Number.Double

/-!
# Number/Rounding — the double nearest to a quotient

`Double.ofQuotient` is the one place where precision is lost: it takes an exact non-negative
quotient of units to the nearest double, a tie going to the even significand and what is too large
to infinity.  Whole numbers, sums and products are computed exactly and then rounded once.
-/

namespace Stencil

/-- How many binary digits a number has. -/
def bitLength (n : Nat) : Nat := if n = 0 then 0 else n.log2 + 1

/-- The whole number nearest to `num / den`; halfway between two, the even one. -/
def nearestEven (num den : Nat) : Nat :=
  let q := num / den
  let twice := 2 * (num % den)
  if twice < den ∨ (twice = den ∧ q % 2 = 0) then q else q + 1

namespace Double

/-- The double `±significand · 2^exponent` units, or infinity when no finite double has that form. -/
def assemble (negative : Bool) (significand exponent : Nat) : Double :=
  if h : significand < 2 * leastFull ∧ exponent ≤ 2045 ∧
      (leastFull ≤ significand ∨ exponent = 0) then
    finite ⟨negative, significand, exponent, h⟩
  else infinity negative

/-- The exponent at which `num / den` units take 53 bits, or the least one. -/
def quotientExponent (num den : Nat) : Nat := bitLength (num / den) - 53

/-- **The double nearest to `±num / den` units**, ties to even. -/
def ofQuotient (negative : Bool) (num den : Nat) : Double :=
  let exponent := quotientExponent num den
  let significand := nearestEven num (den * twoTo exponent)
  if significand = 2 * leastFull then assemble negative leastFull (exponent + 1)
  else assemble negative significand exponent

/-- The double nearest to a whole number. -/
def ofInt (z : Int) : Double := ofQuotient (decide (z < 0)) (z.natAbs * unitsPerOne) 1

/-- The sum, rounded once.  An exact zero is positive unless both terms are negative zeros. -/
def add : Double → Double → Double
  | nan, _ => nan
  | _, nan => nan
  | finite x, finite y =>
      let sum := x.units + y.units
      if sum = 0 then
        finite (Finite.zero (x.negative && y.negative && x.significand == 0 && y.significand == 0))
      else ofQuotient (decide (sum < 0)) sum.natAbs 1
  | finite _, infinity b => infinity b
  | infinity a, finite _ => infinity a
  | infinity a, infinity b => if a = b then infinity a else nan

/-- The product, rounded once.  Zero times infinity is no number. -/
def mul : Double → Double → Double
  | nan, _ => nan
  | _, nan => nan
  | finite x, finite y =>
      ofQuotient (x.negative != y.negative) (x.magnitude * y.magnitude) unitsPerOne
  | finite x, infinity b => if x.significand = 0 then nan else infinity (x.negative != b)
  | infinity a, finite y => if y.significand = 0 then nan else infinity (a != y.negative)
  | infinity a, infinity b => infinity (a != b)

end Double

end Stencil
