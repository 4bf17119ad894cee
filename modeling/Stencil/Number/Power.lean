/-!
# Number/Power — powers of two and of ten

Both scales of a double in one place: the binary one that it is kept on and the decimal one that it is
written on.
-/

namespace Stencil

/-- `2^n`. -/
def twoTo (n : Nat) : Nat := Nat.pow 2 n

/-- `10^n`. -/
def tenTo (n : Nat) : Nat := Nat.pow 10 n

/-- `2^52`, the least significand that fills the 53 bits of a double. -/
def leastFull : Nat := 4503599627370496

/-- A significand fills its bits from half the bound on. -/
theorem leastFull_eq_twoTo : leastFull = twoTo 52 := by decide

end Stencil
