import Stencil.Number.Decimal

/-!
# Number/Shortest — the shortest decimal text of a double

Of the decimal numbers that read back as a given double, the text shows one with the fewest digits,
and of those the nearest; an exact tie goes up.  On each grid of a fixed number of digits only the
two neighbours of the value can qualify, and both are tried by reading them back.  The digits stand
positionally: there is never an exponent, zeros fill up to the point.
-/

namespace Stencil

namespace Double.Finite

/-- The least `k` with value below `10^k`, for a positive quotient. -/
def leadingPlace (num den : Nat) : Int :=
  if den ≤ num then Decimal.digitCount (num / den) else 1 - (Decimal.digitCount (den / num) : Int)

/-- The quotient `num / den` measured in units of `10^place`, as a quotient. -/
def onGrid (num den : Nat) (place : Int) : Nat × Nat :=
  if 0 ≤ place then (num, den * tenTo place.toNat) else (num * tenTo (-place).toNat, den)

/-- The two grid neighbours of `num / den`, the nearer first, the upper first on a tie. -/
def neighbours (num den : Nat) : List Nat :=
  let low := num / den
  if 2 * (num % den) < den then [low, low + 1] else [low + 1, low]

/-- A decimal of `count` digits that reads back as `x`, the nearer if there are two. -/
def withDigits? (x : Finite) (count : Nat) : Option Decimal :=
  let place := leadingPlace x.magnitude unitsPerOne - count
  let (num, den) := onGrid x.magnitude unitsPerOne place
  (neighbours num den).map (Decimal.mk x.negative · place) |>.find?
    (fun d => d.toDouble = .finite x)

/-- The exact decimal value. -/
def exact (x : Finite) : Decimal := ⟨x.negative, x.magnitude * Nat.pow 5 1074, -1074⟩

/-- **The shortest decimal that reads back.**  Seventeen digits are enough for every double. -/
def shortest (x : Finite) : Decimal :=
  if x.significand = 0 then ⟨x.negative, 0, 0⟩
  else ((List.range' 1 17).findSome? x.withDigits?).getD x.exact

end Double.Finite

namespace Decimal

/-- A list without the zeros at its end. -/
def dropTrailingZeros (cs : List Char) : List Char :=
  (cs.reverse.dropWhile (· = '0')).reverse

/-- The digits of a fraction behind their point, or nothing. -/
def pointed (fraction : List Char) : List Char :=
  if fraction = [] then [] else '.' :: fraction

/-- The digits without their sign, zeros filling up to the point. -/
def unsignedText (digits : Nat) (exponent : Int) : List Char :=
  let ds := Nat.toDigits 10 digits
  if 0 ≤ exponent then
    if digits = 0 then ds else ds ++ List.replicate exponent.toNat '0'
  else
    let places := (-exponent).toNat
    let padded := List.replicate (places + 1 - ds.length) '0' ++ ds
    padded.take (padded.length - places)
      ++ pointed (dropTrailingZeros (padded.drop (padded.length - places)))

/-- The positional text of a decimal number. -/
def text (d : Decimal) : List Char :=
  (if d.negative then ['-'] else []) ++ unsignedText d.digits d.exponent

end Decimal

namespace Double

/-- The text of a finite double. -/
def Finite.text (x : Finite) : String := String.ofList x.shortest.text

/-- The text of a double. -/
def text : Double → String
  | finite x => x.text
  | infinity negative => if negative then "-inf" else "inf"
  | nan => "NaN"

end Double

end Stencil
