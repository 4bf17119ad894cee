import Stencil.Number.Shortest

/-!
# Value/Number — the numbers that data hold

A number is a whole number or a finite double; which of the two it is stays visible, but not in
comparisons, and a double that survives being cast to a whole number is shown as this number.
-/

namespace Stencil

/-- A number in the data. -/
inductive Number where
  | integer (value : Int)
  | float (value : Double.Finite)
deriving DecidableEq

namespace Number

/-- The double that a number compares as. -/
def toDouble : Number → Double
  | integer z => .ofInt z
  | float x => .finite x

/-- The decimal text of a whole number. -/
def wholeText (z : Int) : List Char :=
  (if z < 0 then ['-'] else []) ++ Nat.toDigits 10 z.natAbs

/-- A double cast to a whole number of a range: its fraction is dropped, and what lies outside the range
becomes the end that is nearer. -/
def castTo (low high : Int) (x : Double.Finite) : Int := max low (min high x.truncated)

/-- The whole number of a range that a double is: the one it is cast to, if this is the double again when
it is cast back. -/
def within? (low high : Int) (x : Double.Finite) : Option Int :=
  if (Double.ofInt (castTo low high x)).equals (.finite x) then some (castTo low high x) else none

/-- The whole number that a double is shown as: the signed 64-bit number that it is, or else the unsigned
one. -/
def shownWhole? (x : Double.Finite) : Option Int :=
  (within? (-(twoTo 63 : Int)) (twoTo 63 - 1) x).or (within? 0 (twoTo 64 - 1) x)

/-- **The text of a number**: the digits of a whole number, the shortest decimal of another. -/
def text : Number → String
  | integer z => String.ofList (wholeText z)
  | float x => (shownWhole? x).elim x.text fun z => String.ofList (wholeText z)

end Number

end Stencil
