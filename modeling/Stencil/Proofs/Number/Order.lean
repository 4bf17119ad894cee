import Stencil.Proofs.Number.Rounding

/-!
# Proofs/Number/Order — the order of whole numbers and of the doubles nearest to them

Doubles are in the order of their positions, an infinity lying just beyond the finite ones
(`Double.compare?_eq`).  Rounding keeps the order of whole numbers and merges some
(`Double.position_ofInt_mono`).  So beside another whole number each counts as itself, or as the other
one where both have one double (`Double.seenBeside`), which none have up to `2^53`.
-/

namespace Stencil

namespace Double

theorem unitsPerOne_ne_zero : (unitsPerOne : Int) ≠ 0 := Int.natCast_ne_zero.2 (Nat.ne_of_gt (twoTo_pos 1074))

/-! ## Positions -/

/-- Where a number lies: so many units from zero, an infinity just beyond the finite doubles. -/
def position : Double → Int
  | finite x => x.units
  | infinity negative => if negative then -(tooLarge : Int) else tooLarge
  | nan => 0

/-- Without its sign a value is its distance from zero. -/
theorem Finite.natAbs_units (x : Finite) : x.units.natAbs = x.magnitude := by
  rw [units]
  split <;> omega

/-- **Numbers are in the order of their positions.** -/
theorem compare?_eq {x y : Double} (hx : x ≠ nan) (hy : y ≠ nan) :
    compare? x y = some (compare x.position y.position) := by
  have hinside : ∀ x : Finite, -(tooLarge : Int) < x.units ∧ x.units < tooLarge := by
    intro x
    have hlt := x.magnitude_lt_tooLarge
    have hunits := x.natAbs_units
    omega
  have hpos : -(tooLarge : Int) < tooLarge := by decide +kernel
  rcases x with x | a | _
  · rcases y with y | b | _
    · rfl
    · rcases b with _ | _
      · exact congrArg some (Int.compare_eq_lt.2 (hinside x).2).symm
      · exact congrArg some (Int.compare_eq_gt.2 (hinside x).1).symm
    · exact absurd rfl hy
  · rcases y with y | b | _
    · rcases a with _ | _
      · exact congrArg some (Int.compare_eq_gt.2 (hinside y).2).symm
      · exact congrArg some (Int.compare_eq_lt.2 (hinside y).1).symm
    · rcases a with _ | _ <;> rcases b with _ | _
      · exact congrArg some (Int.compare_eq_eq.2 rfl).symm
      · exact congrArg some (Int.compare_eq_gt.2 hpos).symm
      · exact congrArg some (Int.compare_eq_lt.2 hpos).symm
      · exact congrArg some (Int.compare_eq_eq.2 rfl).symm
    · exact absurd rfl hy
  · exact absurd rfl hx

section
variable {x y : Double} (hx : x ≠ nan) (hy : y ≠ nan)
include hx hy

/-- Numbers are equal if they lie at one place. -/
theorem equals_eq_decide : x.equals y = decide (x.position = y.position) := by
  rw [equals, compare?_eq hx hy]
  simp only [Option.some.injEq, Int.compare_eq_eq]

theorem below_eq_decide : x.below y = decide (x.position < y.position) := by
  rw [below, compare?_eq hx hy]
  simp only [Option.some.injEq, Int.compare_eq_lt]

theorem atMost_eq_decide : x.atMost y = decide (x.position ≤ y.position) := by
  rw [atMost, below_eq_decide hx hy, equals_eq_decide hx hy, ← Bool.decide_or]
  exact decide_eq_decide.2 Int.le_iff_lt_or_eq.symm

end

/-! ## The doubles nearest to whole numbers -/

/-- How far from zero the double nearest to a whole number of this size lies. -/
def reach (n : Nat) : Nat := min (rounded (n * unitsPerOne) 1) tooLarge

/-- A larger whole number lies no nearer to zero. -/
theorem reach_mono {m n : Nat} (h : m ≤ n) : reach m ≤ reach n := by
  have hrounded := rounded_mono (Nat.mul_le_mul_right unitsPerOne h) 1
  rw [reach, reach]
  omega

/-- Up to `2^53` a whole number has its own double. -/
theorem reach_of_small {n : Nat} (h : n ≤ twoTo 53) : reach n = n * unitsPerOne := by
  have hrounded : rounded (n * unitsPerOne) 1 = n * unitsPerOne := by
    rw [unitsPerOne]
    rcases Nat.lt_or_eq_of_le h with hlt | rfl
    · exact rounded_of_fits (two_mul_leastFull ▸ hlt) 1074
    · have hpower := rounded_of_fits (m := 1) (by decide) (53 + 1074)
      rwa [Nat.one_mul, twoTo_add] at hpower
  have hlarge : n * unitsPerOne ≤ tooLarge :=
    Nat.le_trans (Nat.mul_le_mul_right unitsPerOne h) (by decide +kernel)
  rw [reach, hrounded, Nat.min_eq_left hlarge]

/-- A whole number that is not zero has a double that is not zero. -/
theorem reach_pos {n : Nat} (h : 0 < n) : 0 < reach n :=
  calc 0 < 1 * unitsPerOne := by decide +kernel
    _ = reach 1 := (reach_of_small (by decide)).symm
    _ ≤ reach n := reach_mono h

/-- **The double nearest to a whole number** lies on the side of its sign. -/
theorem position_ofInt (z : Int) :
    (ofInt z).position = if z < 0 then -(reach z.natAbs : Int) else reach z.natAbs := by
  rw [ofInt, reach]
  obtain ⟨x, hx, hsign, hmagnitude⟩ | ⟨hinfinity, hlarge⟩ :=
    ofQuotient_cases (decide (z < 0)) (z.natAbs * unitsPerOne) 1
  · have hlt := x.magnitude_lt_tooLarge
    rw [hx, position, Finite.units, hsign, hmagnitude, Nat.min_eq_left (by omega)]
    simp only [decide_eq_true_eq]
  · rw [hinfinity, position, Nat.min_eq_right hlarge]
    simp only [decide_eq_true_eq]

/-- A double with a whole value is the nearest one to this value. -/
theorem position_ofInt_of_units {x : Finite} {z : Int} (h : x.units = z * unitsPerOne) :
    (ofInt z).position = x.units := by
  have hmagnitude : z.natAbs * unitsPerOne = x.magnitude := by
    rw [← x.natAbs_units, h, Int.natAbs_mul, Int.natAbs_natCast]
  have hreach : reach z.natAbs = z.natAbs * unitsPerOne := by
    rw [reach, hmagnitude, x.rounded_magnitude, Nat.min_eq_left (Nat.le_of_lt x.magnitude_lt_tooLarge)]
  rw [position_ofInt, hreach, h, Int.natCast_mul]
  split
  · rw [Int.ofNat_natAbs_of_nonpos (by omega), Int.neg_mul, Int.neg_neg]
  · rw [Int.natAbs_of_nonneg (by omega)]

/-- **The double nearest to a whole number has a whole value**: below the exponent from which on all doubles
do, the number is not rounded. -/
theorem exists_position_ofInt (z : Int) : ∃ w : Int, (ofInt z).position = w * unitsPerOne := by
  have hrounded : unitsPerOne ∣ rounded (z.natAbs * unitsPerOne) 1 := by
    rw [unitsPerOne]
    rcases Nat.le_total (quotientExponent (z.natAbs * twoTo 1074) 1) 1074 with hsmall | hlarge
    · rw [rounded_of_quotientExponent_le hsmall]
      exact Nat.dvd_mul_left _ _
    · exact Nat.dvd_trans (twoTo_dvd_twoTo hlarge) (Nat.dvd_mul_left _ _)
  have hdvd : unitsPerOne ∣ reach z.natAbs := by
    rw [reach, Nat.min_def]
    split
    · exact hrounded
    · rw [unitsPerOne, tooLarge_eq]
      exact twoTo_dvd_twoTo (by decide)
  obtain ⟨n, hn⟩ := hdvd
  rw [position_ofInt, hn, Nat.mul_comm, Int.natCast_mul]
  split
  · exact ⟨-n, (Int.neg_mul _ _).symm⟩
  · exact ⟨n, rfl⟩

/-- **Rounding keeps the order of whole numbers.** -/
theorem position_ofInt_mono {a b : Int} (h : a ≤ b) : (ofInt a).position ≤ (ofInt b).position := by
  rw [position_ofInt, position_ofInt]
  split
  · split
    · have hreach : reach b.natAbs ≤ reach a.natAbs := reach_mono (by omega)
      omega
    · omega
  · rw [if_neg (by omega)]
    have hreach : reach a.natAbs ≤ reach b.natAbs := reach_mono (by omega)
    omega

/-- Doubles nearest to whole numbers are one double if they lie at one place. -/
theorem ofInt_eq_of_position {a b : Int} (h : (ofInt a).position = (ofInt b).position) :
    ofInt a = ofInt b := by
  have hsigns : (a < 0 ↔ b < 0) ∧ reach a.natAbs = reach b.natAbs := by
    rw [position_ofInt, position_ofInt] at h
    rcases Int.lt_or_le a 0 with ha | ha <;> rcases Int.lt_or_le b 0 with hb | hb
    · rw [if_pos ha, if_pos hb] at h
      omega
    · have hpos : 0 < reach a.natAbs := reach_pos (by omega)
      rw [if_pos ha, if_neg (by omega)] at h
      omega
    · have hpos : 0 < reach b.natAbs := reach_pos (by omega)
      rw [if_neg (by omega), if_pos hb] at h
      omega
    · rw [if_neg (by omega), if_neg (by omega)] at h
      omega
  rw [ofInt, ofInt, decide_eq_decide.2 hsigns.1]
  exact ofQuotient_eq_of_rounded _ hsigns.2

theorem position_ofInt_of_small {z : Int} (h : z.natAbs ≤ twoTo 53) :
    (ofInt z).position = z * unitsPerOne := by
  rw [position_ofInt, reach_of_small h]
  split
  · rw [Int.natCast_mul, Int.ofNat_natAbs_of_nonpos (by omega), Int.neg_mul, Int.neg_neg]
  · rw [Int.natCast_mul, Int.natAbs_of_nonneg (by omega)]

/-- **Up to `2^53` whole numbers have different doubles.** -/
theorem ofInt_inj_of_small {a b : Int} (ha : a.natAbs ≤ twoTo 53) (hb : b.natAbs ≤ twoTo 53)
    (h : ofInt a = ofInt b) : a = b := by
  refine Int.eq_of_mul_eq_mul_right unitsPerOne_ne_zero ?_
  rw [← position_ofInt_of_small ha, ← position_ofInt_of_small hb, h]

/-! ## Whole numbers beside each other -/

/-- The whole number that `b` counts as beside `a`: `a` itself, where one double is nearest to both. -/
def seenBeside (a b : Int) : Int := if ofInt a = ofInt b then a else b

theorem seenBeside_of_small {a b : Int} (ha : a.natAbs ≤ twoTo 53) (hb : b.natAbs ≤ twoTo 53) :
    seenBeside a b = b := by
  rw [seenBeside]
  split
  · next h => exact ofInt_inj_of_small ha hb h
  · rfl

/-- **Two whole numbers compare as doubles like the first one and what the second one counts as.** -/
theorem compare_position_ofInt (a b : Int) :
    compare (ofInt a).position (ofInt b).position = compare a (seenBeside a b) := by
  rw [seenBeside]
  split
  · next h => rw [h, Int.compare_eq_eq.2 rfl, Int.compare_eq_eq.2 rfl]
  · next h =>
    have hne : (ofInt a).position ≠ (ofInt b).position := fun heq => h (ofInt_eq_of_position heq)
    rcases Int.lt_trichotomy a b with hlt | rfl | hgt
    · have hle := position_ofInt_mono (Int.le_of_lt hlt)
      rw [Int.compare_eq_lt.2 hlt, Int.compare_eq_lt.2 (Int.lt_iff_le_and_ne.2 ⟨hle, hne⟩)]
    · exact absurd rfl h
    · have hle := position_ofInt_mono (Int.le_of_lt hgt)
      rw [Int.compare_eq_gt.2 hgt, Int.compare_eq_gt.2 (Int.lt_iff_le_and_ne.2 ⟨hle, hne.symm⟩)]

end Double

end Stencil
