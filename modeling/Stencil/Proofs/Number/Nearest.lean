import Stencil.Proofs.Number.Decimal
import Stencil.Proofs.Number.Order

/-!
# Proofs/Number/Nearest — rounding is to the nearest double, and to the even one of two

    ±num / den ──nearestEven──▸ significand · 2^exponent ──assemble──▸ double

The significand is the nearest whole number on the grid of the quotient's exponent, and no double off this
grid comes closer than the grid itself (`Double.on_grid_or_le`).  So the double that a quotient is rounded to
is the nearest one (`Double.ofQuotient_isNearest`); there is one only, for between two even doubles lies
another (`Double.IsNearest.unique`).
-/

namespace Stencil

/-! ## The nearest value in 53 bits -/

/-- **The nearest whole number is nearest**: no other is closer to the quotient, and one that is as close
leaves it even. -/
theorem nearestEven_closest (num : Nat) {den : Nat} (hden : 0 < den) (t : Nat) :
    ((nearestEven num den * den : Nat) - num : Int).natAbs ≤ ((t * den : Nat) - num : Int).natAbs ∧
      (((t * den : Nat) - num : Int).natAbs = ((nearestEven num den * den : Nat) - num : Int).natAbs →
        t = nearestEven num den ∨ nearestEven num den % 2 = 0) := by
  have hnum := Nat.div_add_mod' num den
  have hrest := Nat.mod_lt num hden
  have hnext := Nat.add_one_mul (num / den) den
  -- Any other whole number lies beyond one of the two neighbours by at least one more.
  have hplace : t = num / den ∨ t = num / den + 1 ∨ t * den + den ≤ num / den * den ∨
      (num / den + 1) * den + den ≤ t * den := by
    rcases Nat.lt_trichotomy t (num / den) with hlt | heq | hgt
    · exact .inr (.inr (.inl (Nat.add_one_mul t den ▸ Nat.mul_le_mul_right den hlt)))
    · exact .inl heq
    · rcases Nat.lt_or_eq_of_le hgt with hgt | heq
      · exact .inr (.inr (.inr (Nat.add_one_mul (num / den + 1) den ▸ Nat.mul_le_mul_right den hgt)))
      · exact .inr (.inl heq.symm)
  rw [nearestEven]
  generalize num / den = q at *
  generalize num % den = r at *
  split
  · next h => rcases hplace with rfl | rfl | hfar | hfar <;> omega
  · next h => rcases hplace with rfl | rfl | hfar | hfar <;> omega

namespace Double

/-- What has 53 bits is on the grid of a quotient's exponent, or no more than its whole part there. -/
theorem on_grid_or_le {m : Nat} (hm : m < 2 * leastFull) (k num den : Nat) :
    (∃ t, m * twoTo k = t * twoTo (quotientExponent num den)) ∨
      m * twoTo k ≤ num / (den * twoTo (quotientExponent num den)) * twoTo (quotientExponent num den) := by
  rcases Nat.lt_or_ge k (quotientExponent num den) with hlt | hge
  · refine .inr ?_
    calc m * twoTo k ≤ 2 * leastFull * twoTo k := Nat.mul_le_mul_right _ (Nat.le_of_lt hm)
      _ = leastFull * twoTo (k + 1) := two_mul_leastFull_mul_twoTo k
      _ ≤ _ := Nat.mul_le_mul (leastFull_le_quotient (Nat.ne_zero_of_lt hlt)) (twoTo_le_twoTo hlt)
  · refine .inl ⟨m * twoTo (k - quotientExponent num den), ?_⟩
    rw [Nat.mul_assoc, ← twoTo_add, Nat.sub_add_cancel hge]

/-- **Rounding takes a quotient to the nearest value in 53 bits**: none is closer to it, and one that is as
close leaves the significand even. -/
theorem rounded_closest (num : Nat) {den : Nat} (hden : 0 < den) {m : Nat} (hm : m < 2 * leastFull)
    (k : Nat) :
    ((rounded num den * den : Nat) - num : Int).natAbs ≤ ((m * twoTo k * den : Nat) - num : Int).natAbs ∧
      (((m * twoTo k * den : Nat) - num : Int).natAbs = ((rounded num den * den : Nat) - num : Int).natAbs →
        m * twoTo k = rounded num den ∨ quotientSignificand num den % 2 = 0) := by
  have hgrid := on_grid_or_le hm k num den
  rw [rounded, quotientSignificand]
  generalize quotientExponent num den = e at *
  have hstep : 0 < den * twoTo e := Nat.mul_pos hden (twoTo_pos e)
  have hscale : ∀ t, t * twoTo e * den = t * (den * twoTo e) := fun t => by
    rw [Nat.mul_assoc, Nat.mul_comm (twoTo e)]
  have hclosest := nearestEven_closest num hstep
  rw [hscale]
  generalize m * twoTo k = value at *
  rcases hgrid with ⟨t, rfl⟩ | hlow
  · obtain ⟨hle, htie⟩ := hclosest t
    rw [hscale]
    exact ⟨hle, fun h => (htie h).imp_left (congrArg (· * twoTo e))⟩
  · -- A value below the grid is no closer than the whole part of the quotient.
    obtain ⟨hle, htie⟩ := hclosest (num / (den * twoTo e))
    have hwhole : num / (den * twoTo e) * (den * twoTo e) ≤ num := Nat.div_mul_le_self ..
    have hbelow := Nat.mul_le_mul_right den hlow
    rw [hscale] at hbelow
    refine ⟨by omega, fun h => ?_⟩
    have hsame : value * den = num / (den * twoTo e) * twoTo e * den := by
      rw [hscale]
      omega
    rw [Nat.eq_of_mul_eq_mul_right hden hsame]
    exact (htie (by rw [hscale] at hsame; rw [← hsame]; exact h)).imp_left (congrArg (· * twoTo e))

/-! ## The nearest double -/

/-- Whether a double is negative; of the zeros one is. -/
def isNegative : Double → Bool
  | finite x => x.negative
  | infinity negative => negative
  | nan => false

/-- Whether the last bit of the significand is zero.  An infinity stands where the next significand would
be, which is even. -/
def isEven : Double → Bool
  | finite x => x.significand % 2 = 0
  | infinity _ => true
  | nan => false

/-- How far a double lies from `±num / den` units, in parts of which a unit has `den`. -/
def distance (negative : Bool) (num den : Nat) (x : Double) : Nat :=
  (x.position * den - if negative then -(num : Int) else num).natAbs

/-- **The double nearest to `±num / den` units**: none is closer, and of two that are as close it is the
even one.  An infinity lies just beyond the finite doubles. -/
structure IsNearest (negative : Bool) (num den : Nat) (x : Double) : Prop where
  ne_nan : x ≠ nan
  sign : x.isNegative = negative
  closest (y : Double) (hy : y ≠ nan) : x.distance negative num den ≤ y.distance negative num den
  even (y : Double) (hy : y ≠ nan) (htie : y.distance negative num den = x.distance negative num den) :
    y.position = x.position ∨ x.isEven = true

/-! ## Where doubles lie -/

/-- Where a double lies, seen from zero in the direction of a sign. -/
def along (negative : Bool) (x : Double) : Int := if negative then -x.position else x.position

theorem distance_eq (negative : Bool) (num den : Nat) (x : Double) :
    x.distance negative num den = (x.along negative * den - num).natAbs := by
  rw [distance, along]
  rcases negative with _ | _
  · rfl
  · rw [if_pos rfl, if_pos rfl, Int.neg_mul]
    omega

theorem natAbs_along (negative : Bool) (x : Double) : (x.along negative).natAbs = x.position.natAbs := by
  rw [along]
  split
  · exact Int.natAbs_neg _
  · rfl

theorem natAbs_position_finite (x : Finite) : (finite x).position.natAbs = x.magnitude := x.natAbs_units

theorem natAbs_position_infinity (negative : Bool) : (infinity negative).position.natAbs = tooLarge := by
  rw [position]
  split
  · rw [Int.natAbs_neg, Int.natAbs_natCast]
  · exact Int.natAbs_natCast _

theorem natAbs_position_le {x : Double} (hx : x ≠ nan) : x.position.natAbs ≤ tooLarge := by
  rcases x with x | negative | _
  · rw [natAbs_position_finite]
    exact Nat.le_of_lt x.magnitude_lt_tooLarge
  · exact Nat.le_of_eq (natAbs_position_infinity negative)
  · exact absurd rfl hx

/-- Every double has 53 bits at some exponent. -/
theorem exists_natAbs_position {x : Double} (hx : x ≠ nan) :
    ∃ m k, m < 2 * leastFull ∧ x.position.natAbs = m * twoTo k := by
  rcases x with x | negative | _
  · exact ⟨x.significand, x.exponent, x.canonical.1, natAbs_position_finite x⟩
  · exact ⟨1, 2098, by decide, by rw [natAbs_position_infinity, tooLarge_eq, Nat.one_mul]⟩
  · exact absurd rfl hx

/-- A double lies in the direction of its sign. -/
theorem along_isNegative (x : Double) : x.along x.isNegative = x.position.natAbs := by
  rcases x with x | negative | _
  · rw [natAbs_position_finite, along, isNegative, position, Finite.units]
    split <;> omega
  · rw [natAbs_position_infinity, along, isNegative, position]
    split <;> omega
  · rfl

/-! ## Rounding is to the nearest -/

/-- No double is closer to a quotient than what it is rounded to; one that is as close and lies elsewhere
leaves the significand even. -/
theorem rounded_closest_along (negative : Bool) (num : Nat) {den : Nat} (hden : 0 < den) {y : Double}
    (hy : y ≠ nan) :
    ((rounded num den * den : Nat) - num : Int).natAbs ≤ y.distance negative num den ∧
      (y.distance negative num den = ((rounded num den * den : Nat) - num : Int).natAbs →
        y.along negative = rounded num den ∨ quotientSignificand num den % 2 = 0) := by
  obtain ⟨m, k, hm, hplace⟩ := exists_natAbs_position hy
  rw [distance_eq, ← natAbs_along negative] at *
  rcases Int.le_total 0 (y.along negative) with hpos | hneg
  · obtain ⟨hle, htie⟩ := rounded_closest num hden hm k
    rw [← hplace] at hle htie
    have hsame : y.along negative * den = ((y.along negative).natAbs * den : Nat) := by
      rw [Int.natCast_mul, Int.natAbs_of_nonneg hpos]
    rw [hsame]
    refine ⟨hle, fun h => (htie h).imp_left fun heq => ?_⟩
    rw [← heq, Int.natAbs_of_nonneg hpos]
  · -- On the other side of zero nothing is closer than zero itself.
    obtain ⟨hle, htie⟩ := rounded_closest num hden (m := 0) (by decide) 0
    rw [Nat.zero_mul, Nat.zero_mul] at hle htie
    have hside : y.along negative * den = -((y.along negative).natAbs * den : Nat) := by
      rw [Int.natCast_mul, Int.ofNat_natAbs_of_nonpos hneg, Int.neg_mul, Int.neg_neg]
    rw [hside]
    refine ⟨by omega, fun h => ?_⟩
    have hzero : (y.along negative).natAbs * den = 0 := by omega
    have hnone : (y.along negative).natAbs = 0 :=
      (Nat.mul_eq_zero.1 hzero).resolve_right (Nat.ne_of_gt hden)
    rw [Int.natAbs_eq_zero.1 hnone]
    exact (htie (by omega)).imp_left (congrArg Nat.cast)

/-- An even significand before the last carry stays even. -/
theorem isEven_of_quotientSignificand {num den : Nat} {x : Finite} (hmagnitude : x.magnitude = rounded num den)
    (h : quotientSignificand num den % 2 = 0) : (finite x).isEven = true := by
  have hle := quotientSignificand_le num den
  have hfull : leastFull ≤ quotientSignificand num den ∨ quotientExponent num den = 0 :=
    (Nat.eq_zero_or_pos _).symm.imp_left fun h => leastFull_le_quotientSignificand (Nat.ne_of_gt h)
  have hx : x.significand * twoTo x.exponent =
      quotientSignificand num den * twoTo (quotientExponent num den) := hmagnitude
  refine decide_eq_true ?_
  rcases Nat.lt_or_eq_of_le hle with hlt | heq
  · have hexponent : x.exponent = quotientExponent num den :=
      Nat.le_antisymm (Finite.exponent_le hlt x.canonical.2.2 hx.symm)
        (Finite.exponent_le x.canonical.1 hfull hx)
    rw [hexponent] at hx
    rw [Nat.eq_of_mul_eq_mul_right (twoTo_pos _) hx]
    exact h
  · rw [heq, two_mul_leastFull_mul_twoTo] at hx
    have hexponent : x.exponent = quotientExponent num den + 1 :=
      Nat.le_antisymm (Finite.exponent_le (by decide) x.canonical.2.2 hx.symm)
        (Finite.exponent_le x.canonical.1 (.inl (Nat.le_refl _)) hx)
    rw [hexponent] at hx
    rw [Nat.eq_of_mul_eq_mul_right (twoTo_pos _) hx]
    decide

/-- What is rounded too far lies no closer to any finite double than to the infinity. -/
theorem tooLarge_closest {num den : Nat} (hden : 0 < den) (hlarge : tooLarge ≤ rounded num den)
    {negative : Bool} {y : Double} (hy : y ≠ nan) :
    ((tooLarge * den : Nat) - num : Int).natAbs ≤ y.distance negative num den := by
  rcases Nat.le_total (tooLarge * den) num with hbeyond | hbefore
  · have hbound : y.along negative ≤ tooLarge := by
      have hnatAbs := natAbs_along negative y
      have hposition := natAbs_position_le hy
      omega
    have hscaled := Int.mul_le_mul_of_nonneg_right hbound (Int.natCast_nonneg den)
    rw [distance_eq]
    rw [← Int.natCast_mul] at hscaled
    omega
  · have hsame : rounded num den = tooLarge := by
      refine Nat.le_antisymm ?_ hlarge
      calc rounded num den ≤ rounded (tooLarge * den) den := rounded_mono hbefore den
        _ = rounded tooLarge 1 := rounded_congr hden Nat.zero_lt_one (Nat.mul_one _)
        _ = tooLarge := rounded_tooLarge
    rw [← hsame]
    exact (rounded_closest_along negative num hden hy).1

theorem position_eq_of_along {negative : Bool} {x y : Double} (h : x.along negative = y.along negative) :
    x.position = y.position := by
  rw [along, along] at h
  split at h <;> omega

/-- **Rounding takes a quotient to the nearest double.** -/
theorem ofQuotient_isNearest (negative : Bool) (num : Nat) {den : Nat} (hden : 0 < den) :
    (ofQuotient negative num den).IsNearest negative num den := by
  obtain ⟨x, hx, hsign, hmagnitude⟩ | ⟨hinfinity, hlarge⟩ := ofQuotient_cases negative num den
  · have halong : (finite x).along negative = rounded num den := by
      rw [← hmagnitude, ← natAbs_position_finite, ← along_isNegative]
      exact congrArg (along · (finite x)) hsign.symm
    have hdistance : (finite x).distance negative num den =
        ((rounded num den * den : Nat) - num : Int).natAbs := by
      rw [distance_eq, halong, Int.natCast_mul]
    refine ⟨ofQuotient_ne_nan _ _ _, by rw [hx]; exact hsign, fun y hy => ?_, fun y hy htie => ?_⟩
    · rw [hx, hdistance]
      exact (rounded_closest_along negative num hden hy).1
    · rw [hx, hdistance] at htie
      rw [hx]
      refine ((rounded_closest_along negative num hden hy).2 htie).imp (fun hsame => ?_) fun heven => ?_
      · exact position_eq_of_along (hsame.trans halong.symm)
      · exact isEven_of_quotientSignificand hmagnitude heven
  · have halong : (infinity negative).along negative = tooLarge := by
      rw [← natAbs_position_infinity negative, ← along_isNegative]
      rfl
    have hdistance : (infinity negative).distance negative num den =
        ((tooLarge * den : Nat) - num : Int).natAbs := by
      rw [distance_eq, halong, Int.natCast_mul]
    refine ⟨ofQuotient_ne_nan _ _ _, by rw [hinfinity]; rfl, fun y hy => ?_, fun y hy htie => ?_⟩
    · rw [hinfinity, hdistance]
      exact tooLarge_closest hden hlarge hy
    · exact .inr (by rw [hinfinity]; rfl)

/-! ## There is one nearest double -/

/-- **Sign and place make a double.** -/
theorem ext_position {x y : Double} (hx : x ≠ nan) (hy : y ≠ nan) (hsign : x.isNegative = y.isNegative)
    (h : x.position.natAbs = y.position.natAbs) : x = y := by
  rcases x with x | a | _
  · rcases y with y | b | _
    · rw [natAbs_position_finite, natAbs_position_finite] at h
      exact congrArg finite (Finite.ext_magnitude hsign h)
    · rw [natAbs_position_finite, natAbs_position_infinity] at h
      exact absurd h (Nat.ne_of_lt x.magnitude_lt_tooLarge)
    · exact absurd rfl hy
  · rcases y with y | b | _
    · rw [natAbs_position_finite, natAbs_position_infinity] at h
      exact absurd h.symm (Nat.ne_of_lt y.magnitude_lt_tooLarge)
    · exact congrArg infinity hsign
    · exact absurd rfl hy
  · exact absurd rfl hx

/-- An even significand is followed by one more before the next even double. -/
theorem Finite.magnitude_succ_lt {x y : Finite} (hx : x.significand % 2 = 0) (hy : y.significand % 2 = 0)
    (h : x.magnitude < y.magnitude) : (x.significand + 1) * twoTo x.exponent < y.magnitude := by
  rcases Nat.lt_or_ge y.exponent x.exponent with hlt | hge
  · have hfull := x.canonical.2.2.resolve_right (Nat.ne_zero_of_lt hlt)
    refine absurd h (Nat.not_lt.2 ?_)
    calc y.magnitude ≤ 2 * leastFull * twoTo y.exponent :=
          Nat.mul_le_mul_right _ (Nat.le_of_lt y.canonical.1)
      _ = leastFull * twoTo (y.exponent + 1) := two_mul_leastFull_mul_twoTo _
      _ ≤ x.magnitude := Nat.mul_le_mul hfull (twoTo_le_twoTo hlt)
  · have hsplit : y.magnitude = y.significand * twoTo (y.exponent - x.exponent) * twoTo x.exponent := by
      rw [magnitude, Nat.mul_assoc, ← twoTo_add, Nat.sub_add_cancel hge]
    have heven : y.significand * twoTo (y.exponent - x.exponent) % 2 = 0 := by
      rw [Nat.mul_mod, hy, Nat.zero_mul]
    rw [hsplit] at h ⊢
    have hlt := Nat.lt_of_mul_lt_mul_right h
    exact Nat.mul_lt_mul_of_pos_right (by omega) (twoTo_pos _)

/-- **Between two even doubles lies another one**, the one with the next significand after the first. -/
theorem exists_between {x y : Double} (hx : x.isEven = true) (hy : y.isEven = true)
    (h : x.position.natAbs < y.position.natAbs) (negative : Bool) :
    ∃ z, z ≠ nan ∧ z.isNegative = negative ∧ x.position.natAbs < z.position.natAbs ∧
      z.position.natAbs < y.position.natAbs := by
  have hynan : y ≠ nan := fun hnan => by rw [hnan] at hy; exact Bool.noConfusion hy
  rcases x with x | a | _
  · have heven : x.significand % 2 = 0 := of_decide_eq_true hx
    have hbits := x.canonical.1
    have hnext : x.significand + 1 < 2 * leastFull := by omega
    obtain ⟨z, hz⟩ : ∃ z : Finite, z = ⟨negative, x.significand + 1, x.exponent, hnext, x.canonical.2.1,
      x.canonical.2.2.imp_left Nat.le_succ_of_le⟩ := ⟨_, rfl⟩
    have hmagnitude : z.magnitude = x.magnitude + twoTo x.exponent := by
      rw [hz, Finite.magnitude, Finite.magnitude, Nat.add_one_mul]
    refine ⟨finite z, fun hnan => Double.noConfusion hnan, by rw [hz]; rfl, ?_, ?_⟩
    · rw [natAbs_position_finite, natAbs_position_finite, hmagnitude]
      exact Nat.lt_add_of_pos_right (twoTo_pos _)
    rcases y with y | b | _
    · rw [natAbs_position_finite, natAbs_position_finite] at h
      rw [natAbs_position_finite, natAbs_position_finite, hz]
      exact Finite.magnitude_succ_lt heven (of_decide_eq_true hy) h
    · rw [natAbs_position_finite, natAbs_position_infinity]
      exact z.magnitude_lt_tooLarge
    · exact absurd rfl hynan
  · rw [natAbs_position_infinity] at h
    exact absurd h (Nat.not_lt.2 (natAbs_position_le hynan))
  · exact Bool.noConfusion hx

/-- A double between two others is closer than one of them, and so than both if these are as close. -/
theorem distance_lt_of_between {negative : Bool} {num den : Nat} (hden : 0 < den) {x y z : Double}
    (hx : x.isNegative = negative) (hy : y.isNegative = negative) (hz : z.isNegative = negative)
    (hxz : x.position.natAbs < z.position.natAbs) (hzy : z.position.natAbs < y.position.natAbs)
    (hdistance : x.distance negative num den = y.distance negative num den) :
    z.distance negative num den < x.distance negative num den := by
  have hplace : ∀ w : Double, w.isNegative = negative →
      w.distance negative num den = ((w.position.natAbs * den : Nat) - num : Int).natAbs := by
    intro w hw
    rw [distance_eq, ← hw, along_isNegative, Int.natCast_mul]
  have hbelow := Nat.mul_lt_mul_of_pos_right hxz hden
  have habove := Nat.mul_lt_mul_of_pos_right hzy hden
  rw [hplace x hx, hplace y hy] at hdistance
  rw [hplace x hx, hplace z hz]
  omega

/-- **There is one nearest double.**  Of two that are as close both would be even, and another one would lie
between them, closer. -/
theorem IsNearest.unique {negative : Bool} {num den : Nat} (hden : 0 < den) {x y : Double}
    (hx : x.IsNearest negative num den) (hy : y.IsNearest negative num den) : x = y := by
  have hdistance := Nat.le_antisymm (hx.closest y hy.ne_nan) (hy.closest x hx.ne_nan)
  have hnone : ∀ {x y : Double}, x.IsNearest negative num den → y.IsNearest negative num den →
      x.distance negative num den = y.distance negative num den →
      ¬ x.position.natAbs < y.position.natAbs := by
    intro x y hx hy hdistance hlt
    have hxeven := (hx.even y hy.ne_nan hdistance.symm).resolve_left fun h => by omega
    have hyeven := (hy.even x hx.ne_nan hdistance).resolve_left fun h => by omega
    obtain ⟨z, hz, hsign, hxz, hzy⟩ := exists_between hxeven hyeven hlt negative
    have hcloser := distance_lt_of_between hden hx.sign hy.sign hsign hxz hzy hdistance
    exact Nat.not_lt.2 (hx.closest z hz) hcloser
  refine ext_position hx.ne_nan hy.ne_nan (hx.sign.trans hy.sign.symm) ?_
  exact Nat.le_antisymm (Nat.not_lt.1 (hnone hy hx hdistance.symm)) (Nat.not_lt.1 (hnone hx hy hdistance))

end Double

/-! ## The double of a decimal number -/

/-- A double that is the nearest one to a decimal number. -/
def Decimal.Rounds (d : Decimal) (x : Double) : Prop :=
  x.IsNearest d.negative (d.digits * tenTo d.exponent.toNat * Double.unitsPerOne)
    (tenTo (-d.exponent).toNat)

/-- **The double of a decimal number is the nearest one.** -/
theorem Decimal.rounds_iff {d : Decimal} {x : Double} : d.Rounds x ↔ x = d.toDouble := by
  have hnearest : d.Rounds d.toDouble := by
    rw [Rounds, toDouble_eq]
    exact Double.ofQuotient_isNearest _ _ (tenTo_pos _)
  constructor
  · exact fun h => h.unique (tenTo_pos _) hnearest
  · rintro rfl
    exact hnearest

end Stencil
