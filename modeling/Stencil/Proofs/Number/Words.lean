import Stencil.Number.Lenient
import Stencil.Proofs.Number.Numeral

/-!
# Proofs/Number/Words — the letters that keep words from the reader

    word with a letter of its own ──isForeign──▸ nan
    numeral ───────────────────────────────────▸ its double

The generous reader knows numerals and words.  A numeral has no other letter than an `e`
(`Decimal.Spells.not_isForeign`), each word has one (`Double.any_isForeign_of_isWord`), so what is left of the
reader behind the letters are the numerals (`Double.ofTrimmed_eq`).
-/

namespace Stencil

/-! ## The letters of numerals -/

/-- Letters stand behind the digits. -/
theorem le_toNat_of_isAlpha {c : Char} (h : c.isAlpha = true) : 65 ≤ c.toNat := by
  rcases Bool.or_eq_true_iff.1 h with hupper | hlower
  · exact UInt32.le_iff_toNat_le.1 (of_decide_eq_true hupper).1
  · have hbound : 97 ≤ c.toNat :=
      UInt32.le_iff_toNat_le.1 (of_decide_eq_true (Bool.and_eq_true_iff.1 hlower).1)
    exact Nat.le_trans (by decide) hbound

namespace Decimal

open Double (isForeign)

theorem Digits.not_isForeign {cs : List Char} (h : Digits cs) : ∀ c ∈ cs, isForeign c = false := by
  intro c hc
  have hbounds : 48 ≤ c.toNat ∧ c.toNat ≤ 57 := by
    simpa [Char.isDigit, UInt32.le_iff_toNat_le] using h c hc
  have halpha : c.isAlpha = false := Bool.eq_false_iff.2 fun h => by
    have hletter := le_toNat_of_isAlpha h
    omega
  rw [isForeign, halpha, Bool.false_and, Bool.false_and]

theorem SignOf.not_isForeign {cs : List Char} {negative : Bool} (h : SignOf cs negative) :
    ∀ c ∈ cs, isForeign c = false := by
  rcases h with _ | _ | _
  · exact fun _ hc => absurd hc List.not_mem_nil
  · exact List.forall_mem_singleton.2 (by decide)
  · exact List.forall_mem_singleton.2 (by decide)

theorem FractionOf.not_isForeign {cs fraction : List Char} (h : FractionOf cs fraction) :
    ∀ c ∈ cs, isForeign c = false := by
  rcases h with _ | hdigits
  · exact fun _ hc => absurd hc List.not_mem_nil
  · exact List.forall_mem_cons.2 ⟨by decide, hdigits.not_isForeign⟩

theorem ExponentOf.not_isForeign {cs : List Char} {x : Int} (h : ExponentOf cs x) :
    ∀ c ∈ cs, isForeign c = false := by
  rcases h with _ | ⟨he, hsign, _, hdigits⟩
  · exact fun _ hc => absurd hc List.not_mem_nil
  · refine List.forall_mem_cons.2
      ⟨?_, List.forall_mem_append.2 ⟨hsign.not_isForeign, hdigits.not_isForeign⟩⟩
    rcases he with rfl | rfl <;> decide

/-- **A numeral has no other letter than an `e`.** -/
theorem Spells.not_isForeign {cs : List Char} {d : Decimal} (h : Spells cs d) :
    ∀ c ∈ cs, isForeign c = false := by
  obtain ⟨hsign, hwhole, hpoint, -, hlast⟩ := h
  simp only [List.forall_mem_append]
  exact ⟨hsign.not_isForeign, hwhole.not_isForeign, hpoint.not_isForeign, hlast.not_isForeign⟩

/-- A text with another letter is no numeral. -/
theorem read?_eq_none_of_isForeign {cs : List Char} (h : cs.any isForeign = true) : read? cs = none := by
  rcases hread : read? cs with _ | d
  · rfl
  · obtain ⟨c, hc, hforeign⟩ := List.any_eq_true.1 h
    have hplain := (read?_eq_some.1 hread).not_isForeign c hc
    exact absurd hforeign (by rw [hplain]; exact Bool.false_ne_true)

end Decimal

/-! ## The letters of words -/

namespace Double

theorem isWord_iff {cs : List Char} :
    isWord cs = true ↔ cs.map Char.toLower = "inf".toList ∨ cs.map Char.toLower = "infinity".toList ∨
      cs.map Char.toLower = "nan".toList := by
  rw [isWord, List.contains_iff_mem, List.mem_cons, List.mem_cons, List.mem_singleton]

/-- The letter that all words have, in either case. -/
theorem isForeign_of_toLower {c : Char} (h : c.toLower = 'n') : isForeign c = true := by
  unfold Char.toLower at h
  split at h
  · have hval : c.val + ('a'.val - 'A'.val) = 'N'.val + ('a'.val - 'A'.val) := congrArg Char.val h
    rw [Char.ext ((UInt32.add_left_inj _).1 hval)]
    decide
  · rw [h]
    decide

/-- **Every word has a letter that no numeral has.** -/
theorem any_isForeign_of_isWord {cs : List Char} (h : isWord cs = true) : cs.any isForeign = true := by
  have hn : 'n' ∈ cs.map Char.toLower := by
    rcases isWord_iff.1 h with h | h | h <;> rw [h] <;> decide
  obtain ⟨c, hc, hlower⟩ := List.mem_map.1 hn
  exact List.any_eq_true.2 ⟨c, hc, isForeign_of_toLower hlower⟩

/-- No word begins with a sign. -/
theorem ne_sign_of_isWord {cs : List Char} (h : isWord cs = true) (c : Char) (rest : List Char)
    (hcs : cs = c :: rest) : c ≠ '-' ∧ c ≠ '+' := by
  have hfirst : c.toLower = 'i' ∨ c.toLower = 'n' := by
    rw [isWord_iff, hcs, List.map_cons] at h
    rcases h with h | h | h
    · exact .inl (List.cons.inj h).1
    · exact .inl (List.cons.inj h).1
    · exact .inr (List.cons.inj h).1
  refine ⟨?_, ?_⟩ <;> rintro rfl <;> exact absurd hfirst (by decide)

/-! ## What is left of the reader -/

/-- Without a letter that no numeral has, the generous reader reads numerals. -/
theorem readGenerous?_of_not_isForeign {cs : List Char} (h : ¬ cs.any isForeign = true) :
    readGenerous? cs = read? cs := by
  obtain ⟨sign, hcs, -⟩ := Decimal.splitSign_spec cs
  have hword : isWord (Decimal.splitSign cs).2 = false := by
    refine Bool.eq_false_iff.2 fun hword => h ?_
    rw [hcs, List.any_append, any_isForeign_of_isWord hword, Bool.or_true]
  rw [readGenerous?]
  dsimp only
  rw [hword, if_neg Bool.false_ne_true]

/-- **Behind the letters the generous reader reads numerals and nothing else.** -/
theorem ofTrimmed_eq (cs : List Char) :
    ofTrimmed cs =
      if cs = [] then .finite (.zero false)
      else if cs = "Infinity".toList ∨ cs = "+Infinity".toList then .infinity false
      else if cs = "-Infinity".toList then .infinity true
      else (read? cs).getD nan := by
  have hrest : (if cs.any isForeign then nan else (readGenerous? cs).getD nan) = (read? cs).getD nan := by
    split
    · next hforeign =>
      rw [read?, Decimal.read?_eq_none_of_isForeign hforeign]
      rfl
    · next hplain => rw [readGenerous?_of_not_isForeign hplain]
  rw [ofTrimmed, hrest]

end Double

end Stencil
