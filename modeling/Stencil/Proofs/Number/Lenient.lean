import Stencil.Proofs.Number.Nearest
import Stencil.Proofs.Number.Spelling

/-!
# Proofs/Number/Lenient — which texts read as a number, and as which

    text ──trim──▸ nothing │ [sign] Infinity │ numeral ──nearest double──▸ number

Without the white space around it a text reads as a number if nothing is left, if it is the name of an
infinity, or if it is a numeral, which reads as the nearest double (`Double.Reads`,
`Double.ofTrimmed_eq_iff`).  None of the words `inf`, `infinity` and `nan`, in any letter case, does
(`Double.not_reads_of_isWord`).
-/

namespace Stencil

namespace Double

/-! ## The grammar -/

/-- **What trimmed characters read as**: nothing as zero, the names of the infinities as these, and a numeral
as the double nearest to its number. -/
inductive Reads : List Char → Double → Prop
  | empty : Reads [] (.finite (.zero false))
  | infinity {sign negative} (hsign : Decimal.SignOf sign negative) :
      Reads (sign ++ "Infinity".toList) (.infinity negative)
  | numeral {cs d x} (hspells : Decimal.Spells cs d) (hrounds : d.Rounds x) : Reads cs x

/-- **Reading follows the grammar**: a text reads as the number that the grammar gives it, and as none
otherwise. -/
theorem ofTrimmed_eq_iff {cs : List Char} {x : Double} : ofTrimmed cs = x ∧ x ≠ nan ↔ Reads cs x := by
  constructor
  · rintro ⟨rfl, hne⟩
    rw [ofTrimmed_eq] at hne ⊢
    split
    · next hnil => exact hnil ▸ .empty
    next hsome =>
    rw [if_neg hsome] at hne
    split
    · next hname =>
      rcases hname with hname | hname
      · exact hname ▸ .infinity .none
      · exact hname ▸ .infinity .plus
    next hpositive =>
    rw [if_neg hpositive] at hne
    split
    · next hname => exact hname ▸ .infinity .minus
    next hnegative =>
    rw [if_neg hnegative] at hne
    rcases hread : Decimal.read? cs with _ | d
    · rw [read?, hread] at hne
      exact absurd rfl hne
    · rw [read?, hread]
      exact .numeral (Decimal.read?_eq_some.1 hread) (Decimal.rounds_iff.2 rfl)
  · rintro (_ | hsign | ⟨hspells, hrounds⟩)
    · exact ⟨rfl, fun h => Double.noConfusion h⟩
    · refine ⟨?_, fun h => Double.noConfusion h⟩
      rcases hsign with _ | _ | _ <;> rfl
    · rw [Decimal.rounds_iff.1 hrounds]
      exact ⟨ofTrimmed_of_spells hspells, Decimal.toDouble_ne_nan _⟩

/-- A text spells what it reads as; a blank text reads as zero but spells nothing. -/
theorem spelled?_eq_some_iff {s : String} {x : Double} :
    spelled? s = some x ↔ Text.blank s = false ∧ ofText s = x ∧ x ≠ nan := by
  refine ⟨fun h => ⟨?_, ofText_of_spelled? h, ne_nan_of_spelled? h⟩, ?_⟩
  · rw [spelled?] at h
    split at h
    · exact absurd h.symm (Option.some_ne_none x)
    · next hblank => exact Bool.eq_false_iff.2 hblank
  · rintro ⟨hblank, rfl, hne⟩
    rw [spelled?, hblank, if_neg Bool.false_ne_true]
    split
    · next hnan => exact absurd hnan hne
    · rfl

/-! ## The words that it does not have -/

/-- The grammar has no word but the one spelling of the infinity. -/
theorem not_reads_of_isWord {sign word : List Char} {negative : Bool} {x : Double}
    (hsign : Decimal.SignOf sign negative) (hword : isWord word = true)
    (hname : word ≠ "Infinity".toList) : ¬ Reads (sign ++ word) x := by
  intro h
  generalize hcs : sign ++ word = cs at h
  rcases h with _ | hother | ⟨hspells, -⟩
  · rw [(List.append_eq_nil_iff.1 hcs).2] at hword
    exact Bool.false_ne_true hword
  · have hsplit := congrArg (fun cs => (Decimal.splitSign cs).2) hcs
    rw [Decimal.splitSign_append hsign (ne_sign_of_isWord hword),
      Decimal.splitSign_append hother (ne_sign_of_isWord (by decide))] at hsplit
    exact hname hsplit
  · obtain ⟨c, hc, hforeign⟩ := List.any_eq_true.1 (any_isForeign_of_isWord hword)
    have hplain := hspells.not_isForeign c (hcs ▸ List.mem_append_right sign hc)
    exact Bool.false_ne_true (hplain.symm.trans hforeign)

/-! ## Which texts read as a number -/

/-- **The lenient reader accepts exactly its grammar.**  A text reads as a number if the grammar gives its
trimmed characters one, and as this number; it spells one if, besides, it is not blank.  Of the words for an
infinity and for `nan` in any letter case, with a sign or none, none reads as a number but the one spelling
that the grammar has. -/
theorem ofText_reads (s : String) :
    (∀ x, ofText s = x ∧ x ≠ nan ↔ Reads (Text.trim s.toList) x) ∧
    (∀ x, spelled? s = some x ↔ Text.blank s = false ∧ Reads (Text.trim s.toList) x) ∧
    (spelled? s = none ↔ Text.blank s = true ∨ ¬ ∃ x, Reads (Text.trim s.toList) x) ∧
    (∀ sign negative word, Decimal.SignOf sign negative → isWord word = true →
      word ≠ "Infinity".toList → Text.trim s.toList = sign ++ word → ofText s = nan) := by
  have hreads : ∀ x, ofText s = x ∧ x ≠ nan ↔ Reads (Text.trim s.toList) x := fun x => ofTrimmed_eq_iff
  have hspelled : ∀ x, spelled? s = some x ↔ Text.blank s = false ∧ Reads (Text.trim s.toList) x :=
    fun x => by rw [spelled?_eq_some_iff, hreads]
  refine ⟨hreads, hspelled, ?_, ?_⟩
  · rw [Option.eq_none_iff_forall_ne_some]
    constructor
    · intro hnone
      rcases hblank : Text.blank s
      · exact .inr fun ⟨x, hx⟩ => hnone x ((hspelled x).2 ⟨hblank, hx⟩)
      · exact .inl rfl
    · intro hnone x hx
      obtain ⟨hblank, hread⟩ := (hspelled x).1 hx
      rcases hnone with hnone | hnone
      · exact Bool.false_ne_true (hblank.symm.trans hnone)
      · exact hnone ⟨x, hread⟩
  · intro sign negative word hsign hword hname htrim
    by_contra hne
    have hread := (hreads _).1 ⟨rfl, hne⟩
    rw [htrim] at hread
    exact not_reads_of_isWord hsign hword hname hread

end Double

end Stencil
