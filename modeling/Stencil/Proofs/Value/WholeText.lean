import Stencil.Proofs.Number.Order
import Stencil.Value.Scalar

/-!
# Proofs/Value/WholeText — whole numbers print exactly

    -2^63 ──────────── 0 ──────────── 2^63 ──────────── 2^64
      │    signed range                │  unsigned range  │

A double prints as the whole number that survives being cast to the signed range and back, or else to the
unsigned one.  This is its value, except at the upper end of each range, which is cast to the largest number there
and back (`Number.shownWhole?_eq_some_iff`).  So a number of the 64-bit ranges with a whole value prints the decimal
digits of this value, whether it is kept as a whole number or as a double (`Value.text?_whole`), and one double
does not: `2^63` is the upper end of the signed range.
-/

namespace Stencil

/-! ## The values of numbers -/

/-- A whole value has no fraction to drop. -/
theorem Double.Finite.truncated_of_units {x : Finite} {z : Int} (h : x.units = z * unitsPerOne) :
    x.truncated = z := by
  rw [truncated, h, Int.mul_tdiv_cancel z unitsPerOne_ne_zero]

namespace Number

/-- The exact value of a number, in units. -/
def units : Number → Int
  | integer z => z * Double.unitsPerOne
  | float x => x.units

theorem integer_of_units {a z : Int} (h : (integer a).units = z * Double.unitsPerOne) : a = z :=
  Int.eq_of_mul_eq_mul_right Double.unitsPerOne_ne_zero h

/-- The double `2^63`, just above the signed 64-bit range. -/
def signedEdge : Double.Finite := ⟨false, leastFull, 1085, by decide⟩

theorem units_signedEdge : signedEdge.units = twoTo 63 * Double.unitsPerOne := by decide +kernel

/-- There is one double of the value `2^63`. -/
theorem eq_signedEdge {x : Double.Finite} (h : x.units = twoTo 63 * Double.unitsPerOne) : x = signedEdge := by
  rw [← units_signedEdge] at h
  have hmagnitude : x.magnitude = signedEdge.magnitude := by
    rw [← x.natAbs_units, h, signedEdge.natAbs_units]
  refine Double.Finite.ext_magnitude (Bool.eq_false_iff.2 fun hnegative => ?_) hmagnitude
  have hpos : 0 < x.units := by
    rw [h]
    decide +kernel
  rw [Double.Finite.units, if_pos hnegative] at hpos
  omega

/-! ## The texts of numbers -/

/-- The digits of a whole number are its decimal text. -/
theorem ofList_wholeText (z : Int) : String.ofList (wholeText z) = toString z := by
  rw [Int.toString_eq_repr, Int.repr_eq_if, wholeText]
  split
  · next hneg =>
    have habs : (-z).toNat = z.natAbs := by omega
    rw [if_neg (by omega), habs, Nat.repr_eq_ofList_toDigits, String.ofList_append]
  · next hpos =>
    have habs : z.toNat = z.natAbs := by omega
    rw [if_pos (by omega), habs, Nat.repr_eq_ofList_toDigits, List.nil_append]

/-- **What a double survives the cast to a range as**: its value, which must be whole and in the range or just
above it, where it is the upper end. -/
theorem within?_eq_some_iff {low high : Int} (x : Double.Finite) (z : Int) (hle : low ≤ high)
    (hlow : (Double.ofInt low).position = low * Double.unitsPerOne)
    (hhigh : (Double.ofInt high).position = (high + 1) * Double.unitsPerOne) :
    within? low high x = some z ↔
      ∃ w : Int, x.units = w * Double.unitsPerOne ∧ low ≤ w ∧ w ≤ high + 1 ∧ z = min w high := by
  rw [within?, Double.equals_eq_decide (Double.ofInt_ne_nan _) (fun h => Double.noConfusion h),
    Option.ite_none_right_eq_some, decide_eq_true_iff, Option.some.injEq]
  constructor
  · rintro ⟨hback, rfl⟩
    obtain ⟨w, hw⟩ := Double.exists_position_ofInt (castTo low high x)
    have hx : x.units = w * Double.unitsPerOne := hback.symm.trans hw
    have hcast : castTo low high x = max low (min high w) := by
      rw [castTo, Double.Finite.truncated_of_units hx]
    rw [hcast] at hw ⊢
    refine ⟨w, hx, ?_⟩
    rcases Int.lt_or_le w low with hbelow | hfrom
    · rw [Int.min_eq_right (by omega), Int.max_eq_left (by omega), hlow] at hw
      exact absurd (Int.eq_of_mul_eq_mul_right Double.unitsPerOne_ne_zero hw) (by omega)
    rcases Int.lt_or_le high w with habove | hto
    · rw [Int.min_eq_left (by omega), Int.max_eq_right hle, hhigh] at hw
      have hnext := Int.eq_of_mul_eq_mul_right Double.unitsPerOne_ne_zero hw
      omega
    · omega
  · rintro ⟨w, hx, hfrom, hto, rfl⟩
    have hcast : castTo low high x = min w high := by
      rw [castTo, Double.Finite.truncated_of_units hx]
      omega
    refine ⟨?_, hcast⟩
    rw [hcast]
    rcases Int.lt_or_eq_of_le hto with hlt | rfl
    · rw [Int.min_eq_left (by omega)]
      exact Double.position_ofInt_of_units hx
    · rw [Int.min_eq_right (by omega), hhigh, ← hx]
      rfl

/-- **The whole number that a double is shown as** is its value, from `-2^63` to `2^64`; the upper ends of the
signed and of the unsigned range are shown as the largest number there. -/
theorem shownWhole?_eq_some_iff {x : Double.Finite} {z : Int} :
    shownWhole? x = some z ↔ ∃ w : Int, x.units = w * Double.unitsPerOne ∧
      (-(twoTo 63 : Int) ≤ w ∧ w ≤ twoTo 63 ∧ z = min w (twoTo 63 - 1) ∨
        (twoTo 63 : Int) < w ∧ w ≤ twoTo 64 ∧ z = min w (twoTo 64 - 1)) := by
  have hpowers : 0 < twoTo 63 ∧ twoTo 63 < twoTo 64 := by decide
  have hsigned : ∀ z, within? (-(twoTo 63 : Int)) (twoTo 63 - 1) x = some z ↔ _ := fun z =>
    within?_eq_some_iff x z (by omega) (by decide +kernel) (by decide +kernel)
  have hunsigned : within? 0 (twoTo 64 - 1) x = some z ↔ _ :=
    within?_eq_some_iff x z (by omega) (by decide +kernel) (by decide +kernel)
  rw [shownWhole?, Option.or_eq_some_iff, Option.eq_none_iff_forall_ne_some, hunsigned, hsigned]
  simp only [ne_eq, hsigned]
  constructor
  · rintro (⟨w, hx, hfrom, hto, hz⟩ | ⟨hnone, w, hx, hfrom, hto, hz⟩)
    · exact ⟨w, hx, .inl ⟨hfrom, by omega, hz⟩⟩
    · have habove : (twoTo 63 : Int) < w :=
        Int.not_le.1 fun hle => hnone _ ⟨w, hx, by omega, by omega, rfl⟩
      exact ⟨w, hx, .inr ⟨habove, by omega, hz⟩⟩
  · rintro ⟨w, hx, ⟨hfrom, hto, hz⟩ | ⟨hfrom, hto, hz⟩⟩
    · exact .inl ⟨w, hx, hfrom, by omega, hz⟩
    · refine .inr ⟨?_, w, hx, by omega, by omega, hz⟩
      rintro _ ⟨v, hv, -, hsigned, -⟩
      have hsame : v = w := Int.eq_of_mul_eq_mul_right Double.unitsPerOne_ne_zero (hv.symm.trans hx)
      omega

/-- A whole value of the 64-bit ranges is shown as it is, up to the ends of the ranges. -/
theorem shownWhole?_of_units {x : Double.Finite} {z : Int} (hvalue : x.units = z * Double.unitsPerOne)
    (hlow : -(twoTo 63 : Int) ≤ z) (hhigh : z < twoTo 64) (hedge : z ≠ twoTo 63) :
    shownWhole? x = some z := by
  refine shownWhole?_eq_some_iff.2 ⟨z, hvalue, ?_⟩
  rcases Int.lt_or_lt_of_ne hedge with hsigned | hunsigned
  · exact .inl ⟨hlow, by omega, (Int.min_eq_left (by omega)).symm⟩
  · exact .inr ⟨hunsigned, by omega, (Int.min_eq_left (by omega)).symm⟩

/-- **The text of a whole value in the 64-bit ranges is exact**, but for one double. -/
theorem text_whole {n : Number} {z : Int} (hvalue : n.units = z * Double.unitsPerOne)
    (hlow : -(twoTo 63 : Int) ≤ z) (hhigh : z < twoTo 64) (hedge : n ≠ float signedEdge) :
    n.text = toString z := by
  rcases n with a | x
  · rw [text, integer_of_units hvalue, ofList_wholeText]
  · have hne : z ≠ twoTo 63 := by
      rintro rfl
      exact hedge (congrArg float (eq_signedEdge hvalue))
    rw [text, shownWhole?_of_units hvalue hlow hhigh hne]
    exact ofList_wholeText z

end Number

/-! ## Whole numbers print exactly -/

/-- **Whole numbers print exactly.**  A number whose value is a whole number of the signed or the unsigned
64-bit range has the decimal digits of this value as its text, and so has any other number of the same value;
the double `2^63` is the one exception. -/
theorem Value.text?_whole {n : Number} {z : Int} (hvalue : n.units = z * Double.unitsPerOne)
    (hlow : -(twoTo 63 : Int) ≤ z) (hhigh : z < twoTo 64) (hedge : n ≠ .float Number.signedEdge) :
    (number n).text? = some (toString z) ∧
      ∀ m : Number, m.units = n.units → m ≠ .float Number.signedEdge →
        (number m).text? = (number n).text? := by
  have htext := Number.text_whole hvalue hlow hhigh hedge
  refine ⟨congrArg some htext, fun m hsame hm => congrArg some ?_⟩
  rw [Number.text_whole (hsame.trans hvalue) hlow hhigh hm, htext]

/-- The largest double below `2^64` prints the digits of its value, as the whole number does. -/
theorem Value.text?_whole_largest :
    let x : Double.Finite := ⟨false, 9007199254740991, 1085, by decide⟩
    (number (.float x)).text? = some "18446744073709549568" ∧
      (number (.integer 18446744073709549568)).text? = some "18446744073709549568" := by
  intro x
  have hvalue : (Number.float x).units = 18446744073709549568 * Double.unitsPerOne := by decide +kernel
  obtain ⟨htext, hsame⟩ := text?_whole hvalue (by decide) (by decide) (by decide)
  have hwhole := hsame (.integer 18446744073709549568) hvalue.symm (by decide)
  exact ⟨htext, hwhole.trans htext⟩

/-- The double `2^63` is in the unsigned range and prints another number than the whole number `2^63`. -/
theorem Value.text?_signedEdge :
    (Number.float Number.signedEdge).units = 9223372036854775808 * Double.unitsPerOne ∧
      -(twoTo 63 : Int) ≤ 9223372036854775808 ∧ (9223372036854775808 : Int) < twoTo 64 ∧
      (number (.float Number.signedEdge)).text? = some "9223372036854775807" ∧
      (number (.integer 9223372036854775808)).text? = some "9223372036854775808" := by
  decide +kernel

end Stencil
