import Stencil.Number.Rounding

/-!
# Proofs/Number/Rounding — what rounding to a double keeps

A quotient is first taken to 53 bits at an exponent without a bound (`Double.rounded`), and the bound
on the exponent then only tells the finite from the infinite (`Double.ofQuotient_cases`).  The first
step depends on the quotient alone, keeps its order, and leaves alone what fits into 53 bits.
-/

namespace Stencil

/-! ## Powers -/

theorem twoTo_add (m n : Nat) : twoTo (m + n) = twoTo m * twoTo n := Nat.pow_add 2 m n

theorem twoTo_zero : twoTo 0 = 1 := rfl

theorem twoTo_pos (n : Nat) : 0 < twoTo n := Nat.pow_pos (by decide)

theorem twoTo_le_twoTo {m n : Nat} (h : m ≤ n) : twoTo m ≤ twoTo n :=
  Nat.pow_le_pow_right (by decide) h

/-- A smaller power divides a larger one. -/
theorem twoTo_dvd_twoTo {m n : Nat} (h : m ≤ n) : twoTo m ∣ twoTo n := Nat.pow_dvd_pow 2 h

theorem two_mul_leastFull : 2 * leastFull = twoTo 53 := by decide

/-- Twice the least full significand is the least full one at the next exponent. -/
theorem two_mul_leastFull_mul_twoTo (n : Nat) : 2 * leastFull * twoTo n = leastFull * twoTo (n + 1) := by
  rw [two_mul_leastFull, leastFull_eq_twoTo, ← twoTo_add, ← twoTo_add, Nat.add_comm n, ← Nat.add_assoc]

/-! ## The nearest whole number -/

/-- The nearest whole number to a quotient is one of its two neighbours. -/
theorem nearestEven_bounds (num den : Nat) :
    num / den ≤ nearestEven num den ∧ nearestEven num den ≤ num / den + 1 := by
  rw [nearestEven]
  split <;> omega

/-- A common factor does not count. -/
theorem nearestEven_mul_left {k : Nat} (hk : 0 < k) (num den : Nat) :
    nearestEven (k * num) (k * den) = nearestEven num den := by
  have htwice : 2 * (k * (num % den)) = k * (2 * (num % den)) := Nat.mul_left_comm 2 k _
  rw [nearestEven, nearestEven, Nat.mul_div_mul_left num den hk, Nat.mul_mod_mul_left, htwice]
  simp only [Nat.mul_lt_mul_left hk, Nat.mul_right_inj (Nat.ne_of_gt hk)]

/-- A whole quotient is the nearest whole number to itself. -/
theorem nearestEven_mul_self (n : Nat) {den : Nat} (hden : 0 < den) : nearestEven (n * den) den = n := by
  rw [nearestEven, Nat.mul_div_cancel n hden, Nat.mul_mod_left]
  rw [if_pos (.inl hden)]

/-- Nothing is nearest to what is less than half. -/
theorem nearestEven_eq_zero {num den : Nat} (h : 2 * num < den) : nearestEven num den = 0 := by
  have hlt : num < den := by omega
  rw [nearestEven, Nat.div_eq_of_lt hlt, Nat.mod_eq_of_lt hlt]
  rw [if_pos (.inl h)]

/-- A larger quotient has no smaller nearest whole number. -/
theorem nearestEven_mono {num num' : Nat} (h : num ≤ num') (den : Nat) :
    nearestEven num den ≤ nearestEven num' den := by
  rcases Nat.lt_or_eq_of_le (Nat.div_le_div_right (c := den) h) with hlt | heq
  · calc nearestEven num den ≤ num / den + 1 := (nearestEven_bounds num den).2
      _ ≤ num' / den := hlt
      _ ≤ nearestEven num' den := (nearestEven_bounds num' den).1
  · -- On one whole part the remainders decide, and they are in order.
    have hmod : num % den ≤ num' % den := by
      have hnum := Nat.div_add_mod num den
      have hnum' := Nat.div_add_mod num' den
      rw [heq] at hnum
      omega
    rw [nearestEven, nearestEven, heq]
    split <;> split <;> omega

/-! ## The exponent -/

theorem bitLength_le {n k : Nat} : bitLength n ≤ k ↔ n < twoTo k := by
  rw [bitLength]
  split
  · next h => exact ⟨fun _ => h ▸ twoTo_pos k, fun _ => Nat.zero_le k⟩
  · next h => exact Nat.log2_lt h

theorem bitLength_mono {m n : Nat} (h : m ≤ n) : bitLength m ≤ bitLength n :=
  bitLength_le.2 (Nat.lt_of_le_of_lt h (bitLength_le.1 (Nat.le_refl _)))

namespace Double

/-- The significand that `ofQuotient` starts from, which may still be one bit too long. -/
def quotientSignificand (num den : Nat) : Nat :=
  nearestEven num (den * twoTo (quotientExponent num den))

/-- **The value nearest to `num / den` in 53 bits**, the exponent being as large as it takes. -/
def rounded (num den : Nat) : Nat :=
  quotientSignificand num den * twoTo (quotientExponent num den)

/-- The least magnitude that no finite double reaches, in units. -/
def tooLarge : Nat := 2 * leastFull * twoTo 2045

theorem tooLarge_eq : tooLarge = twoTo 2098 := by
  rw [tooLarge, two_mul_leastFull, ← twoTo_add]

/-- At the exponent of a quotient its whole part has at most 53 bits. -/
theorem quotient_lt (num den : Nat) :
    num / (den * twoTo (quotientExponent num den)) < 2 * leastFull := by
  have hbits : bitLength (num / den) ≤ 53 + quotientExponent num den := by
    rw [quotientExponent]
    omega
  rw [← Nat.div_div_eq_div_mul, Nat.div_lt_iff_lt_mul (twoTo_pos _), two_mul_leastFull, ← twoTo_add]
  exact bitLength_le.1 hbits

/-- If the exponent is not the least one, all 53 bits are there. -/
theorem leastFull_le_quotient {num den : Nat} (h : quotientExponent num den ≠ 0) :
    leastFull ≤ num / (den * twoTo (quotientExponent num den)) := by
  have hbits : ¬ bitLength (num / den) ≤ 52 + quotientExponent num den := by
    rw [quotientExponent] at h ⊢
    omega
  rw [← Nat.div_div_eq_div_mul, Nat.le_div_iff_mul_le (twoTo_pos _), leastFull_eq_twoTo, ← twoTo_add]
  exact Nat.le_of_not_lt fun hlt => hbits (bitLength_le.2 hlt)

/-- Rounded up, a significand has one bit more at the most. -/
theorem quotientSignificand_le (num den : Nat) : quotientSignificand num den ≤ 2 * leastFull :=
  Nat.le_trans (nearestEven_bounds _ _).2 (quotient_lt num den)

theorem leastFull_le_quotientSignificand {num den : Nat} (h : quotientExponent num den ≠ 0) :
    leastFull ≤ quotientSignificand num den :=
  Nat.le_trans (leastFull_le_quotient h) (nearestEven_bounds _ _).1

theorem quotientExponent_mono {num num' : Nat} (h : num ≤ num') (den : Nat) :
    quotientExponent num den ≤ quotientExponent num' den :=
  Nat.sub_le_sub_right (bitLength_mono (Nat.div_le_div_right h)) 53

/-! ## Rounding without a bound -/

/-- **Rounding keeps the order.**  Within one exponent the nearest whole numbers do; a larger exponent
starts where the smaller one ends. -/
theorem rounded_mono {num num' : Nat} (h : num ≤ num') (den : Nat) :
    rounded num den ≤ rounded num' den := by
  rcases Nat.lt_or_eq_of_le (quotientExponent_mono h den) with hlt | heq
  · calc rounded num den ≤ 2 * leastFull * twoTo (quotientExponent num den) :=
        Nat.mul_le_mul_right _ (quotientSignificand_le num den)
      _ = leastFull * twoTo (quotientExponent num den + 1) := two_mul_leastFull_mul_twoTo _
      _ ≤ leastFull * twoTo (quotientExponent num' den) := Nat.mul_le_mul_left _ (twoTo_le_twoTo hlt)
      _ ≤ rounded num' den :=
        Nat.mul_le_mul_right _ (leastFull_le_quotientSignificand (Nat.ne_zero_of_lt hlt))
  · rw [rounded, rounded, quotientSignificand, quotientSignificand, heq]
    exact Nat.mul_le_mul_right _ (nearestEven_mono h _)

/-- A number that the exponent of its 53 bits divides out of is left alone. -/
theorem rounded_of_quotientExponent_le {m k : Nat} (h : quotientExponent (m * twoTo k) 1 ≤ k) :
    rounded (m * twoTo k) 1 = m * twoTo k := by
  rw [rounded, quotientSignificand]
  generalize quotientExponent (m * twoTo k) 1 = e at h
  have hsplit : m * twoTo k = m * twoTo (k - e) * twoTo e := by
    rw [Nat.mul_assoc, ← twoTo_add, Nat.sub_add_cancel h]
  rw [hsplit, Nat.one_mul, nearestEven_mul_self _ (twoTo_pos e)]

/-- **What has 53 bits is left alone**, at whatever exponent it has them. -/
theorem rounded_of_fits {m : Nat} (hm : m < 2 * leastFull) (k : Nat) :
    rounded (m * twoTo k) 1 = m * twoTo k := by
  refine rounded_of_quotientExponent_le ?_
  have hlt : m * twoTo k < twoTo (53 + k) := by
    rw [twoTo_add, ← two_mul_leastFull]
    exact Nat.mul_lt_mul_of_pos_right hm (twoTo_pos k)
  have hbits := bitLength_le.2 hlt
  rw [quotientExponent, Nat.div_one]
  omega

/-- Less than half a unit is rounded away. -/
theorem rounded_eq_zero {num den : Nat} (h : 2 * num < den) : rounded num den = 0 := by
  have hexponent : quotientExponent num den = 0 := by
    rw [quotientExponent, Nat.div_eq_of_lt (by omega : num < den)]
    rfl
  rw [rounded, quotientSignificand, hexponent, twoTo_zero, Nat.mul_one, Nat.mul_one,
    nearestEven_eq_zero h]

/-- The first magnitude beyond the finite doubles has one bit. -/
theorem rounded_tooLarge : rounded tooLarge 1 = tooLarge := by
  have h := rounded_of_fits (m := 1) (by decide) 2098
  rwa [Nat.one_mul, ← tooLarge_eq] at h

/-- A common factor does not count. -/
theorem rounded_mul_left {k : Nat} (hk : 0 < k) (num den : Nat) :
    rounded (k * num) (k * den) = rounded num den := by
  rw [rounded, rounded, quotientSignificand, quotientSignificand, quotientExponent, quotientExponent,
    Nat.mul_div_mul_left num den hk, Nat.mul_assoc, nearestEven_mul_left hk]

/-- **Only the quotient counts.** -/
theorem rounded_congr {num den num' den' : Nat} (hden : 0 < den) (hden' : 0 < den')
    (h : num * den' = num' * den) : rounded num den = rounded num' den' :=
  calc rounded num den = rounded (den' * num) (den' * den) := (rounded_mul_left hden' num den).symm
    _ = rounded (den * num') (den * den') := by
      rw [Nat.mul_comm den' num, h, Nat.mul_comm num' den, Nat.mul_comm den' den]
    _ = rounded num' den' := rounded_mul_left hden num' den'

/-- A quotient too large for a finite double is rounded to one that is too large as well. -/
theorem tooLarge_le_rounded {num den : Nat} (hden : 0 < den) (h : tooLarge * den ≤ num) :
    tooLarge ≤ rounded num den :=
  calc tooLarge = rounded tooLarge 1 := rounded_tooLarge.symm
    _ = rounded (tooLarge * den) den := rounded_congr Nat.zero_lt_one hden (Nat.mul_one _).symm
    _ ≤ rounded num den := rounded_mono h den

/-! ## The double nearest to a quotient -/

namespace Finite

/-- Of two forms of one magnitude, a full significand stands at the smaller exponent. -/
theorem exponent_le {m n j k : Nat} (hm : m < 2 * leastFull) (hfull : leastFull ≤ n ∨ k = 0)
    (h : m * twoTo j = n * twoTo k) : k ≤ j := by
  rcases hfull with hfull | rfl
  · refine Nat.le_of_not_lt fun hlt => Nat.lt_irrefl (m * twoTo j) ?_
    calc m * twoTo j < 2 * leastFull * twoTo j := Nat.mul_lt_mul_of_pos_right hm (twoTo_pos j)
      _ = leastFull * twoTo (j + 1) := two_mul_leastFull_mul_twoTo j
      _ ≤ n * twoTo k := Nat.mul_le_mul hfull (twoTo_le_twoTo hlt)
      _ = m * twoTo j := h.symm
  · exact Nat.zero_le j

/-- **Sign and magnitude make a finite double.** -/
theorem ext_magnitude {x y : Finite} (hsign : x.negative = y.negative)
    (hmagnitude : x.magnitude = y.magnitude) : x = y := by
  obtain ⟨a, m, j, hm, hj, hmfull⟩ := x
  obtain ⟨b, n, k, hn, hk, hnfull⟩ := y
  obtain rfl : a = b := hsign
  have heq : m * twoTo j = n * twoTo k := hmagnitude
  obtain rfl : j = k := Nat.le_antisymm (exponent_le hn hmfull heq.symm) (exponent_le hm hnfull heq)
  obtain rfl : m = n := Nat.eq_of_mul_eq_mul_right (twoTo_pos j) heq
  rfl

/-- Every finite double is below the bound. -/
theorem magnitude_lt_tooLarge (x : Finite) : x.magnitude < tooLarge :=
  calc x.magnitude < 2 * leastFull * twoTo x.exponent :=
        Nat.mul_lt_mul_of_pos_right x.canonical.1 (twoTo_pos _)
    _ ≤ tooLarge := Nat.mul_le_mul_left _ (twoTo_le_twoTo x.canonical.2.1)

theorem rounded_magnitude (x : Finite) : rounded x.magnitude 1 = x.magnitude :=
  rounded_of_fits x.canonical.1 x.exponent

end Finite

/-- Putting a double together fails exactly from `tooLarge` on. -/
theorem assemble_cases (negative : Bool) {significand exponent : Nat} (hbits : significand < 2 * leastFull)
    (hfull : leastFull ≤ significand ∨ exponent = 0) :
    (∃ x : Finite, assemble negative significand exponent = finite x ∧ x.negative = negative ∧
      x.magnitude = significand * twoTo exponent) ∨
    (assemble negative significand exponent = infinity negative ∧
      tooLarge ≤ significand * twoTo exponent) := by
  rw [assemble]
  split
  · exact .inl ⟨_, rfl, rfl, rfl⟩
  · next h =>
    have hlarge : 2045 < exponent := Nat.lt_of_not_le fun hle => h ⟨hbits, hle, hfull⟩
    refine .inr ⟨rfl, ?_⟩
    calc tooLarge = leastFull * twoTo (2045 + 1) := two_mul_leastFull_mul_twoTo 2045
      _ ≤ significand * twoTo exponent :=
        Nat.mul_le_mul (hfull.resolve_right (Nat.ne_zero_of_lt hlarge)) (twoTo_le_twoTo hlarge)

/-- **The double nearest to a quotient** has the value in 53 bits, if this is one of a finite double. -/
theorem ofQuotient_cases (negative : Bool) (num den : Nat) :
    (∃ x : Finite, ofQuotient negative num den = finite x ∧ x.negative = negative ∧
      x.magnitude = rounded num den) ∨
    (ofQuotient negative num den = infinity negative ∧ tooLarge ≤ rounded num den) := by
  have hle := quotientSignificand_le num den
  have hfull : leastFull ≤ quotientSignificand num den ∨ quotientExponent num den = 0 :=
    (Nat.eq_zero_or_pos _).symm.imp_left fun h => leastFull_le_quotientSignificand (Nat.ne_of_gt h)
  rw [ofQuotient, rounded]
  split
  · next heq =>
    have hcarry : quotientSignificand num den * twoTo (quotientExponent num den) =
        leastFull * twoTo (quotientExponent num den + 1) := by
      rw [← two_mul_leastFull_mul_twoTo]
      exact congrArg (· * _) heq
    rw [hcarry]
    exact assemble_cases negative (by decide) (.inl (Nat.le_refl _))
  · next hne => exact assemble_cases negative (Nat.lt_of_le_of_ne hle hne) hfull

theorem ofQuotient_ne_nan (negative : Bool) (num den : Nat) : ofQuotient negative num den ≠ nan := by
  obtain ⟨x, hx, -⟩ | ⟨hinfinity, -⟩ := ofQuotient_cases negative num den
  · exact fun h => Double.noConfusion (hx.symm.trans h)
  · exact fun h => Double.noConfusion (hinfinity.symm.trans h)

theorem ofInt_ne_nan (z : Int) : ofInt z ≠ nan := ofQuotient_ne_nan _ _ _

/-- A double with the sign and the magnitude of the rounded quotient is the one it is rounded to. -/
theorem ofQuotient_eq_finite {negative : Bool} {num den : Nat} {x : Finite}
    (hsign : x.negative = negative) (h : x.magnitude = rounded num den) :
    ofQuotient negative num den = finite x := by
  obtain ⟨y, hy, hysign, hymagnitude⟩ | ⟨-, hlarge⟩ := ofQuotient_cases negative num den
  · rw [hy, Finite.ext_magnitude (hysign.trans hsign.symm) (hymagnitude.trans h.symm)]
  · have hlt := x.magnitude_lt_tooLarge
    omega

theorem ofQuotient_eq_infinity {negative : Bool} {num den : Nat} (h : tooLarge ≤ rounded num den) :
    ofQuotient negative num den = infinity negative := by
  obtain ⟨y, -, -, hymagnitude⟩ | ⟨hinfinity, -⟩ := ofQuotient_cases negative num den
  · have hlt := y.magnitude_lt_tooLarge
    omega
  · exact hinfinity

/-- What is rounded to the same, or in any case too far, has one double. -/
theorem ofQuotient_eq_of_rounded (negative : Bool) {num den num' den' : Nat}
    (h : min (rounded num den) tooLarge = min (rounded num' den') tooLarge) :
    ofQuotient negative num den = ofQuotient negative num' den' := by
  obtain ⟨x, hx, hsign, hmagnitude⟩ | ⟨hinfinity, hlarge⟩ := ofQuotient_cases negative num den
  · have hlt := x.magnitude_lt_tooLarge
    rw [hx, ofQuotient_eq_finite hsign (by omega)]
  · rw [hinfinity, ofQuotient_eq_infinity (by omega)]

theorem ofQuotient_eq_zero (negative : Bool) {num den : Nat} (h : 2 * num < den) :
    ofQuotient negative num den = finite (.zero negative) :=
  ofQuotient_eq_finite rfl ((Nat.zero_mul _).trans (rounded_eq_zero h).symm)

/-- Only the quotient counts. -/
theorem ofQuotient_congr (negative : Bool) {num den num' den' : Nat} (hden : 0 < den) (hden' : 0 < den')
    (h : num * den' = num' * den) : ofQuotient negative num den = ofQuotient negative num' den' :=
  ofQuotient_eq_of_rounded negative (congrArg (min · tooLarge) (rounded_congr hden hden' h))

/-- A double is the nearest one to its own value. -/
theorem ofQuotient_magnitude (x : Finite) : ofQuotient x.negative x.magnitude 1 = finite x :=
  ofQuotient_eq_finite rfl x.rounded_magnitude.symm

end Double

end Stencil
