import Stencil.Number.Decimal
import Stencil.Proofs.Number.Rounding

/-!
# Proofs/Number/Decimal — the double of a decimal number

What is set apart for being too small or too large is rounded to the same, so the double is a quotient
rounded once, whatever its size (`Decimal.toDouble_eq`).  Only the quotient counts, and powers of ten may
move between digits and exponent (`Decimal.toDouble_shift`).
-/

namespace Stencil

theorem tenTo_add (m n : Nat) : tenTo (m + n) = tenTo m * tenTo n := Nat.pow_add 10 m n

theorem tenTo_zero : tenTo 0 = 1 := rfl

theorem tenTo_pos (n : Nat) : 0 < tenTo n := Nat.pow_pos (by decide)

theorem tenTo_le_tenTo {m n : Nat} (h : m ≤ n) : tenTo m ≤ tenTo n :=
  Nat.pow_le_pow_right (by decide) h

namespace Decimal

/-! ## Too small and too large -/

/-- Zero has a digit as well. -/
theorem digitCount_pos (n : Nat) : 0 < digitCount n := List.length_pos_iff.2 Nat.toDigits_ne_nil

/-- A number is below the power of ten that has one more digit. -/
theorem lt_tenTo_digitCount (n : Nat) : n < tenTo (digitCount n) :=
  (Nat.length_toDigits_le_iff (by decide) (digitCount_pos n)).1 (Nat.le_refl _)

/-- A number reaches the power of ten that has as many digits. -/
theorem tenTo_digitCount_le {n : Nat} (h : n ≠ 0) : tenTo (digitCount n - 1) ≤ n := by
  rcases Nat.eq_zero_or_pos (digitCount n - 1) with hone | hmany
  · rw [hone]
    exact Nat.pos_of_ne_zero h
  · refine Nat.le_of_not_lt fun hlt => ?_
    have hle : digitCount n ≤ digitCount n - 1 := (Nat.length_toDigits_le_iff (by decide) hmany).2 hlt
    have hpos := digitCount_pos n
    omega

/-- Below `10^-330` the quotient is less than half a unit. -/
theorem small_quotient {d : Decimal} (h : d.exponent + digitCount d.digits < -330) :
    2 * (d.digits * tenTo d.exponent.toNat * Double.unitsPerOne) < tenTo (-d.exponent).toNat := by
  have hexponent : d.exponent.toNat = 0 := by omega
  have hplaces : digitCount d.digits + 330 ≤ (-d.exponent).toNat := by omega
  have hunits : 2 * Double.unitsPerOne ≤ tenTo 330 := by decide +kernel
  rw [hexponent]
  calc 2 * (d.digits * tenTo 0 * Double.unitsPerOne)
      = d.digits * (2 * Double.unitsPerOne) := by
        rw [Nat.mul_left_comm, tenTo_zero, Nat.mul_one]
    _ < tenTo (digitCount d.digits) * tenTo 330 :=
        Nat.mul_lt_mul_of_lt_of_le (lt_tenTo_digitCount _) hunits (tenTo_pos _)
    _ = tenTo (digitCount d.digits + 330) := (tenTo_add _ _).symm
    _ ≤ tenTo (-d.exponent).toNat := tenTo_le_tenTo hplaces

/-- From `10^310` on the quotient is beyond every finite double. -/
theorem large_quotient {d : Decimal} (hdigits : d.digits ≠ 0)
    (h : 310 < d.exponent + digitCount d.digits) :
    Double.tooLarge * tenTo (-d.exponent).toNat ≤ d.digits * tenTo d.exponent.toNat * Double.unitsPerOne := by
  have hcount := digitCount_pos d.digits
  have hplaces : 310 + (-d.exponent).toNat ≤ digitCount d.digits - 1 + d.exponent.toNat := by omega
  have hbound : Double.tooLarge ≤ tenTo 310 * Double.unitsPerOne := by decide +kernel
  calc Double.tooLarge * tenTo (-d.exponent).toNat
      ≤ tenTo 310 * Double.unitsPerOne * tenTo (-d.exponent).toNat := Nat.mul_le_mul_right _ hbound
    _ = tenTo (310 + (-d.exponent).toNat) * Double.unitsPerOne := by
        rw [tenTo_add, Nat.mul_right_comm]
    _ ≤ tenTo (digitCount d.digits - 1 + d.exponent.toNat) * Double.unitsPerOne :=
        Nat.mul_le_mul_right _ (tenTo_le_tenTo hplaces)
    _ ≤ d.digits * tenTo d.exponent.toNat * Double.unitsPerOne := by
        rw [tenTo_add]
        exact Nat.mul_le_mul_right _ (Nat.mul_le_mul_right _ (tenTo_digitCount_le hdigits))

/-! ## The double -/

/-- **The double of a decimal number is the quotient rounded once.** -/
theorem toDouble_eq (d : Decimal) :
    d.toDouble = .ofQuotient d.negative (d.digits * tenTo d.exponent.toNat * Double.unitsPerOne)
      (tenTo (-d.exponent).toNat) := by
  unfold toDouble
  dsimp only
  split
  · next h =>
    refine (Double.ofQuotient_eq_zero _ ?_).symm
    rcases h with hzero | hsmall
    · rw [hzero, Nat.zero_mul, Nat.zero_mul]
      exact tenTo_pos _
    · exact small_quotient hsmall
  next hsome =>
  rw [not_or] at hsome
  split
  · next hlarge =>
    exact (Double.ofQuotient_eq_infinity
      (Double.tooLarge_le_rounded (tenTo_pos _) (large_quotient hsome.1 hlarge))).symm
  split
  · next hexponent =>
    have hplaces : (-d.exponent).toNat = 0 := by omega
    rw [hplaces]
    rfl
  · next hexponent =>
    have hzeros : d.exponent.toNat = 0 := by omega
    rw [hzeros, tenTo_zero, Nat.mul_one]

/-- **A power of ten counts the same in the digits and in the exponent.** -/
theorem toDouble_shift (negative : Bool) (digits k : Nat) (exponent : Int) :
    toDouble ⟨negative, digits * tenTo k, exponent⟩ = toDouble ⟨negative, digits, exponent + k⟩ := by
  have hplaces : k + exponent.toNat + (-(exponent + k)).toNat =
      (exponent + k).toNat + (-exponent).toNat := by omega
  rw [toDouble_eq, toDouble_eq]
  refine Double.ofQuotient_congr negative (tenTo_pos _) (tenTo_pos _) ?_
  generalize Double.unitsPerOne = units
  calc digits * tenTo k * tenTo exponent.toNat * units * tenTo (-(exponent + k)).toNat
      = digits * tenTo (k + exponent.toNat + (-(exponent + k)).toNat) * units := by
        rw [tenTo_add, tenTo_add]
        ac_rfl
    _ = digits * tenTo (exponent + k).toNat * units * tenTo (-exponent).toNat := by
        rw [hplaces, tenTo_add]
        ac_rfl

/-- A decimal number has a double. -/
theorem toDouble_ne_nan (d : Decimal) : d.toDouble ≠ .nan := by
  rw [toDouble_eq]
  exact Double.ofQuotient_ne_nan _ _ _

end Decimal

end Stencil
