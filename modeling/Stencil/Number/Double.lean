import Stencil.Number.Power

/-!
# Number/Double — double-precision numbers as exact data

A finite double is a sign, a significand of at most 53 bits and a power of two, counted in units of
`2^-1074`, the least positive double.  So its value is a whole number of units (`Finite.units`), and
order, sums and products are questions about whole numbers.
-/

namespace Stencil

/-- A finite double: `±significand · 2^exponent` units of `2^-1074`.  Each value has one form: the
significand fills its 53 bits unless the exponent is the least. -/
structure Double.Finite where
  negative : Bool
  significand : Nat
  exponent : Nat
  canonical : significand < 2 * leastFull ∧ exponent ≤ 2045 ∧
    (leastFull ≤ significand ∨ exponent = 0)
deriving DecidableEq

/-- A double-precision number. -/
inductive Double where
  | finite (x : Double.Finite)
  | infinity (negative : Bool)
  | nan
deriving DecidableEq

namespace Double

/-- How many units of `2^-1074` make one. -/
def unitsPerOne : Nat := twoTo 1074

namespace Finite

/-- The distance from zero, in units. -/
def magnitude (x : Finite) : Nat := x.significand * twoTo x.exponent

/-- The value, in units. -/
def units (x : Finite) : Int := if x.negative then -(x.magnitude : Int) else x.magnitude

/-- Zero, with a sign. -/
def zero (negative : Bool) : Finite := ⟨negative, 0, 0, by decide⟩

/-- The value without its fraction. -/
def truncated (x : Finite) : Int := x.units.tdiv unitsPerOne

end Finite

/-! ## Order

Nothing compares with `nan`; the two zeros have the same number of units and compare equal. -/

/-- How two doubles compare, unless one is `nan`. -/
def compare? : Double → Double → Option Ordering
  | nan, _ => none
  | _, nan => none
  | finite x, finite y => some (compare x.units y.units)
  | finite _, infinity negative => some (if negative then .gt else .lt)
  | infinity negative, finite _ => some (if negative then .lt else .gt)
  | infinity a, infinity b => some (if a = b then .eq else if a then .lt else .gt)

/-- Whether the two are numerically equal. -/
def equals (x y : Double) : Bool := compare? x y = some .eq

/-- Whether `x` is below `y`. -/
def below (x y : Double) : Bool := compare? x y = some .lt

/-- Whether `x` is below or equal to `y`. -/
def atMost (x y : Double) : Bool := x.below y || x.equals y

/-- The finite part of a double. -/
def finite? : Double → Option Finite
  | finite x => some x
  | _ => none

/-- Whether the double is neither `nan` nor zero. -/
def nonzero : Double → Bool
  | finite x => x.significand ≠ 0
  | infinity _ => true
  | nan => false

end Double

end Stencil
