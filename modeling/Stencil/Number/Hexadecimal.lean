/-!
# Number/Hexadecimal — numbers written in base sixteen

The digits are `0` to `9` and `a` to `f` in either case.
-/

namespace Stencil

namespace Hexadecimal

/-- The value of a digit. -/
def digit? (c : Char) : Option Nat :=
  if c.isDigit then some (c.toNat - '0'.toNat)
  else if 'a' ≤ c ∧ c ≤ 'f' then some (c.toNat - 'a'.toNat + 10)
  else if 'A' ≤ c ∧ c ≤ 'F' then some (c.toNat - 'A'.toNat + 10)
  else none

/-- The number that digits write, going on from `n`. -/
def number? (n : Nat) : List Char → Option Nat
  | [] => some n
  | c :: rest => (digit? c).bind fun d => number? (16 * n + d) rest

end Hexadecimal

end Stencil
