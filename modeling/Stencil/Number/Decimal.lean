import Stencil.Number.Rounding

/-!
# Number/Decimal — decimal numerals and the doubles they name

A numeral is an optional sign, digits with at most one point and at least one digit, and optionally
`e` or `E` with a signed whole exponent.  It names the nearest double; one that is too large names an
infinity.  Only the ten ASCII digits count, as the format has no others.
-/

namespace Stencil

/-- The exact number `±digits · 10^exponent`. -/
structure Decimal where
  negative : Bool
  digits : Nat
  exponent : Int
deriving DecidableEq

namespace Decimal

/-- How many decimal digits a number has; zero has one. -/
def digitCount (n : Nat) : Nat := (Nat.toDigits 10 n).length

/-- The number that a run of digits writes. -/
def ofDigits (cs : List Char) : Nat := Nat.ofDigitChars 10 cs 0

/-- The double nearest to a decimal number.  Beyond `10^310` all is infinite and below `10^-330` all
is zero, so a long exponent costs nothing. -/
def toDouble (d : Decimal) : Double :=
  let top := d.exponent + digitCount d.digits
  if d.digits = 0 ∨ top < -330 then .finite (.zero d.negative)
  else if 310 < top then .infinity d.negative
  else if 0 ≤ d.exponent then
    .ofQuotient d.negative (d.digits * tenTo d.exponent.toNat * Double.unitsPerOne) 1
  else .ofQuotient d.negative (d.digits * Double.unitsPerOne) (tenTo (-d.exponent).toNat)

/-! ## Reading a numeral -/

/-- The sign in front, and the rest. -/
def splitSign : List Char → Bool × List Char
  | '-' :: rest => (true, rest)
  | '+' :: rest => (false, rest)
  | rest => (false, rest)

/-- A signed run of digits that is not empty and fills the text. -/
def readWhole? (cs : List Char) : Option Int :=
  let (negative, ds) := splitSign cs
  if ds ≠ [] ∧ ds.all Char.isDigit then
    some (if negative then -(ofDigits ds : Int) else ofDigits ds)
  else none

/-- What follows the digits: nothing, or `e` and a whole number. -/
def readExponent? : List Char → Option Int
  | [] => some 0
  | c :: rest => if c = 'e' ∨ c = 'E' then readWhole? rest else none

/-- The fraction's digits after a point, and the rest. -/
def splitFraction : List Char → List Char × List Char
  | '.' :: rest => (rest.takeWhile Char.isDigit, rest.dropWhile Char.isDigit)
  | rest => ([], rest)

/-- **Read a numeral** that fills the text. -/
def read? (cs : List Char) : Option Decimal :=
  let (negative, body) := splitSign cs
  let whole := body.takeWhile Char.isDigit
  let (fraction, rest) := splitFraction (body.dropWhile Char.isDigit)
  if whole ++ fraction = [] then none
  else (readExponent? rest).map fun exponent =>
    ⟨negative, ofDigits (whole ++ fraction), exponent - fraction.length⟩

end Decimal

/-- The double that a numeral names. -/
def Double.read? (cs : List Char) : Option Double := (Decimal.read? cs).map Decimal.toDouble

end Stencil
