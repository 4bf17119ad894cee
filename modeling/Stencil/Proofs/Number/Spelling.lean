import Mathlib.Data.List.TakeWhile
import Stencil.Proofs.Number.Decimal
import Stencil.Proofs.Number.Words
import Stencil.Value.Number

/-!
# Proofs/Number/Spelling — which texts spell a number

A text spells a number if, without the white space around it, it is a numeral or the name of an
infinity.  So it is made of few characters (`Double.spelled?_eq_none_of_mem`) with few hyphens among
them (`Double.count_hyphen_of_spelled?`).  A numeral spells the double of its number
(`Double.spelled?_of_spells`).
-/

namespace Stencil

/-! ## Without the white space around it -/

namespace Text

/-- There is nothing to trim off a text without white space. -/
theorem trim_eq_self {cs : List Char} (h : ∀ c ∈ cs, isBlank c = false) : trim cs = cs := by
  have hdrop : ∀ ds : List Char, (∀ c ∈ ds, isBlank c = false) → ds.dropWhile isBlank = ds := by
    intro ds hds
    rcases ds with _ | ⟨d, ds⟩
    · rfl
    · exact List.dropWhile_cons_of_neg (by rw [hds d (.head _)]; exact Bool.false_ne_true)
  rw [trim, hdrop cs h, hdrop cs.reverse fun c hc => h c (List.mem_reverse.1 hc), List.reverse_reverse]

/-- Trimming leaves every character that is no white space. -/
theorem count_trim {c : Char} (h : isBlank c = false) (cs : List Char) :
    (trim cs).count c = cs.count c := by
  have hdrop : ∀ ds : List Char, (ds.dropWhile isBlank).count c = ds.count c := by
    intro ds
    induction ds with
    | nil => rfl
    | cons d rest ih =>
      rw [List.dropWhile_cons]
      split
      · next hd =>
        have hne : d ≠ c := fun hdc => Bool.false_ne_true (h.symm.trans (hdc ▸ hd))
        rw [ih, List.count_cons_of_ne hne]
      · rfl
  rw [trim, List.count_reverse, hdrop, List.count_reverse, hdrop]

/-- Trimming leaves nothing of white space only. -/
theorem all_isBlank_of_trim {cs : List Char} (h : trim cs = []) : cs.all isBlank = true := by
  rw [trim, List.reverse_eq_nil_iff, List.dropWhile_eq_nil_iff] at h
  rw [List.all_eq_true, ← List.dropWhile_eq_nil_iff]
  by_contra hne
  have hhead := List.head_dropWhile_not isBlank hne
  rw [h _ (List.mem_reverse.2 (List.head_mem hne))] at hhead
  exact Bool.noConfusion hhead

/-- No digit is white space. -/
theorem isBlank_of_isDigit {c : Char} (h : c.isDigit = true) : isBlank c = false := by
  have hbounds : 48 ≤ c.toNat ∧ c.toNat ≤ 57 := by
    simpa [Char.isDigit, UInt32.le_iff_toNat_le] using h
  simp only [isBlank, inRanges, blankRanges, List.any_eq_false]
  intro range hrange
  simp only [List.mem_cons, List.not_mem_nil, or_false] at hrange
  rcases hrange with rfl | rfl | rfl | rfl | rfl | rfl | rfl | rfl | rfl | rfl <;> simp <;> omega

end Text

/-! ## Numerals and the names of the infinities -/

/-- A numeral or the name of an infinity. -/
inductive Spelling : List Char → Prop
  | numeral {cs d} (h : Decimal.Spells cs d) : Spelling cs
  | infinity {sign negative} (h : Decimal.SignOf sign negative) : Spelling (sign ++ "Infinity".toList)

/-- Whether a character can stand in a numeral or in the name of an infinity. -/
def Spelling.uses (c : Char) : Bool := c.isDigit || "+-.eEInfity".toList.contains c

namespace Decimal

theorem SignOf.uses {cs : List Char} {negative : Bool} (h : SignOf cs negative) :
    ∀ c ∈ cs, Spelling.uses c = true := by
  rcases h with _ | _ | _
  · exact fun _ hc => absurd hc List.not_mem_nil
  · exact List.forall_mem_singleton.2 (by decide)
  · exact List.forall_mem_singleton.2 (by decide)

theorem Digits.uses {cs : List Char} (h : Digits cs) : ∀ c ∈ cs, Spelling.uses c = true :=
  fun c hc => by rw [Spelling.uses, h c hc, Bool.true_or]

theorem FractionOf.uses {cs fraction : List Char} (h : FractionOf cs fraction) :
    ∀ c ∈ cs, Spelling.uses c = true := by
  rcases h with _ | hdigits
  · exact fun _ hc => absurd hc List.not_mem_nil
  · exact List.forall_mem_cons.2 ⟨by decide, hdigits.uses⟩

/-- An exponent uses an `e`, a sign and digits. -/
theorem ExponentOf.uses {cs : List Char} {x : Int} (h : ExponentOf cs x) :
    ∀ c ∈ cs, Spelling.uses c = true := by
  rcases h with _ | ⟨he, hsign, _, hdigits⟩
  · exact fun _ hc => absurd hc List.not_mem_nil
  · refine List.forall_mem_cons.2 ⟨?_, List.forall_mem_append.2 ⟨hsign.uses, hdigits.uses⟩⟩
    rcases he with rfl | rfl <;> decide

/-- No digit is a hyphen. -/
theorem Digits.count_hyphen {cs : List Char} (h : Digits cs) : cs.count '-' = 0 :=
  List.count_eq_zero.2 fun hmem => absurd (h '-' hmem) (by decide)

theorem SignOf.count_hyphen {cs : List Char} {negative : Bool} (h : SignOf cs negative) :
    cs.count '-' ≤ 1 := by
  rcases h with _ | _ | _ <;> decide

theorem FractionOf.count_hyphen {cs fraction : List Char} (h : FractionOf cs fraction) :
    cs.count '-' = 0 := by
  rcases h with _ | hdigits
  · rfl
  · rw [List.count_cons_of_ne (by decide), hdigits.count_hyphen]

/-- The one hyphen of an exponent is its sign. -/
theorem ExponentOf.count_hyphen {cs : List Char} {x : Int} (h : ExponentOf cs x) :
    cs.count '-' ≤ 1 := by
  rcases h with _ | ⟨he, hsign, _, hdigits⟩
  · decide
  · have hne : ∀ e : Char, e = 'e' ∨ e = 'E' → e ≠ '-' := by
      rintro e (rfl | rfl) <;> decide
    rw [List.count_cons_of_ne (hne _ he), List.count_append, hdigits.count_hyphen]
    exact hsign.count_hyphen

end Decimal

namespace Spelling

/-- What spells a number is made of few characters. -/
theorem uses_of_mem {cs : List Char} (h : Spelling cs) : ∀ c ∈ cs, uses c = true := by
  rcases h with ⟨hsign, hwhole, hpoint, -, hlast⟩ | hsign
  · simp only [List.forall_mem_append]
    exact ⟨hsign.uses, hwhole.uses, hpoint.uses, hlast.uses⟩
  · exact List.forall_mem_append.2 ⟨hsign.uses, fun c hc => List.all_eq_true.1 (by decide) c hc⟩

/-- What spells a number has a hyphen in front and one in its exponent at most. -/
theorem count_hyphen {cs : List Char} (h : Spelling cs) :
    cs.count '-' ≤ if cs.head? = some '-' then 2 else 1 := by
  rcases h with ⟨hsign, hwhole, hpoint, -, hlast⟩ | hsign
  · have hlast := hlast.count_hyphen
    simp only [List.count_append, hwhole.count_hyphen, hpoint.count_hyphen]
    rcases hsign with _ | _ | _
    · split <;> simp only [List.count_nil] <;> omega
    · split <;> simp only [List.count_singleton] <;> simp <;> omega
    · rw [List.singleton_append, List.head?_cons, if_pos rfl, List.count_singleton_self]
      omega
  · rcases hsign with _ | _ | _ <;> decide

/-- There is no white space in what spells a number. -/
theorem not_isBlank {cs : List Char} (h : Spelling cs) : ∀ c ∈ cs, Text.isBlank c = false := by
  intro c hc
  rcases Bool.or_eq_true _ _ ▸ h.uses_of_mem c hc with hdigit | hletter
  · exact Text.isBlank_of_isDigit hdigit
  · have hall : ("+-.eEInfity".toList.all fun c => !Text.isBlank c) = true := by decide
    exact Bool.not_eq_true' _ ▸ List.all_eq_true.1 hall c (List.contains_iff_mem.1 hletter)

end Spelling

/-! ## Texts that spell a number -/

namespace Double

/-- **What spells a number is a numeral or the name of an infinity**, but for the white space around it. -/
theorem spelling_of_spelled? {s : String} {x : Double} (h : spelled? s = some x) :
    Spelling (Text.trim s.toList) := by
  have hblank : Text.blank s = false := by
    rw [spelled?] at h
    split at h
    · exact absurd h.symm (Option.some_ne_none x)
    · next hblank => exact Bool.eq_false_iff.2 hblank
  have hne : ofText s ≠ nan := by
    intro hnan
    rw [spelled?, hblank, if_neg Bool.false_ne_true, hnan] at h
    exact absurd h.symm (Option.some_ne_none x)
  rw [ofText, ofTrimmed_eq] at hne
  split at hne
  · next hnil =>
    rw [Text.blank, Text.all_isBlank_of_trim hnil] at hblank
    exact Bool.noConfusion hblank
  split at hne
  · next hname =>
    rcases hname with hname | hname
    · exact hname ▸ .infinity .none
    · exact hname ▸ .infinity .plus
  split at hne
  · next hname => exact hname ▸ .infinity .minus
  · rcases hread : Decimal.read? (Text.trim s.toList) with _ | d
    · rw [read?, hread] at hne
      exact absurd rfl hne
    · exact .numeral (Decimal.read?_eq_some.1 hread)

/-- A text reads as what it spells. -/
theorem ofText_of_spelled? {s : String} {x : Double} (h : spelled? s = some x) : ofText s = x := by
  rw [spelled?] at h
  split at h
  · exact absurd h.symm (Option.some_ne_none x)
  split at h
  · exact absurd h.symm (Option.some_ne_none x)
  · exact Option.some.inj h

/-- A text spells no number if it has a character that no number has. -/
theorem spelled?_eq_none_of_mem {s : String} {c : Char} (hc : c ∈ s.toList)
    (hblank : Text.isBlank c = false) (hforeign : Spelling.uses c = false) : spelled? s = none := by
  rcases hx : spelled? s with _ | x
  · rfl
  · have hmem : c ∈ Text.trim s.toList := by
      rw [← List.count_pos_iff, Text.count_trim hblank]
      exact List.count_pos_iff.2 hc
    have huses := (spelling_of_spelled? hx).uses_of_mem c hmem
    exact absurd huses (by rw [hforeign]; exact Bool.false_ne_true)

/-- Without white space in it, a text that spells a number has few hyphens. -/
theorem count_hyphen_of_spelled? {s : String} {x : Double} (h : spelled? s = some x)
    (hblank : ∀ c ∈ s.toList, Text.isBlank c = false) :
    s.toList.count '-' ≤ if s.toList.head? = some '-' then 2 else 1 := by
  have hspelling := spelling_of_spelled? h
  rw [Text.trim_eq_self hblank] at hspelling
  exact hspelling.count_hyphen

/-- What a text spells is a number. -/
theorem ne_nan_of_spelled? {s : String} {x : Double} (h : spelled? s = some x) : x ≠ nan := by
  rintro rfl
  rw [spelled?] at h
  split at h
  · exact absurd h.symm (Option.some_ne_none nan)
  split at h
  · exact absurd h.symm (Option.some_ne_none nan)
  · next hne => exact hne (Option.some.inj h)

/-- A numeral reads as the double of its number. -/
theorem ofTrimmed_of_spells {cs : List Char} {d : Decimal} (h : Decimal.Spells cs d) :
    ofTrimmed cs = d.toDouble := by
  have hread := Decimal.read?_eq_some.2 h
  -- Neither the empty text nor the infinities are numerals.
  have hother : ∀ {other : String}, Decimal.read? other.toList = none → cs ≠ other.toList := by
    rintro other hother rfl
    exact Option.some_ne_none d (hread.symm.trans hother)
  have hne : cs ≠ [] := hother (show Decimal.read? "".toList = none by decide)
  rw [ofTrimmed_eq, if_neg hne, if_neg (not_or.2 ⟨hother (by decide), hother (by decide)⟩),
    if_neg (hother (by decide)), read?, hread]
  rfl

/-- A numeral spells the double of its number. -/
theorem spelled?_of_spells {cs : List Char} {d : Decimal} (h : Decimal.Spells cs d) :
    spelled? (String.ofList cs) = some d.toDouble := by
  have hplain := (Spelling.numeral h).not_isBlank
  have hblank : Text.blank (String.ofList cs) = false := by
    rcases cs with _ | ⟨c, rest⟩
    · exact absurd ((Decimal.read?_eq_some.2 h).symm.trans rfl) (Option.some_ne_none d)
    · rw [Text.blank, String.toList_ofList, List.all_cons, hplain c (.head _), Bool.false_and]
  have hofText : ofText (String.ofList cs) = d.toDouble := by
    rw [ofText, String.toList_ofList, Text.trim_eq_self hplain, ofTrimmed_of_spells h]
  rw [spelled?, hblank, if_neg Bool.false_ne_true, hofText]
  split
  · next hnan => exact absurd hnan d.toDouble_ne_nan
  · rfl

end Double

/-! ## Runs of digits -/

namespace Decimal

theorem digits_toDigits (n : Nat) : Digits (Nat.toDigits 10 n) :=
  fun _ hc => Nat.isDigit_of_mem_toDigits (by decide) (by decide) hc

theorem digits_replicate_zero (n : Nat) : Digits (List.replicate n '0') :=
  fun c hc => by rw [List.eq_of_mem_replicate hc]; decide

theorem Digits.append {cs ds : List Char} (hcs : Digits cs) (hds : Digits ds) : Digits (cs ++ ds) :=
  List.forall_mem_append.2 ⟨hcs, hds⟩

end Decimal

end Stencil
