import Stencil.Proofs.Interpolation
import Stencil.Proofs.Pattern.Braces

/-!
# Proofs/Interpolation/Braces — texts in the default grammar

`Braced` says where the holes of a text are in the default grammar: at the first pair of opening braces,
up to the first pair of closing ones behind it, and so on from there.  The interpolation of a text is the
one that is so (`braced_ofText`), it shows as the text again, and its skeleton has no hole: no literal in
front of a hole has a pair of opening braces or ends with half of one, so none comes about where literals
meet (`Braced.skeleton`).
-/

namespace Stencil

namespace Text

/-- With a pair anywhere there is a first, and behind it is all that is behind the other. -/
theorem exists_cut?_eq_some (c : Char) (before behind : List Char) :
    ∃ first rest, cut? c (before ++ c :: c :: behind) = some (first, rest) ∧ behind <:+ rest := by
  induction before with
  | nil => exact ⟨[], behind, cut?_pair c behind, List.suffix_refl behind⟩
  | cons a before ih =>
    obtain ⟨first, rest, hcut, hsuffix⟩ := ih
    rcases hall : before ++ c :: c :: behind with _ | ⟨b, others⟩
    · exact absurd hall (by simp)
    · rw [hall] at hcut
      rw [List.cons_append, hall, cut?]
      split
      · refine ⟨[], others, rfl, ?_⟩
        rcases before with _ | ⟨d, before⟩
        · exact (List.cons.inj hall).2 ▸ List.suffix_cons c behind
        · refine (List.cons.inj hall).2 ▸ ⟨before ++ [c, c], ?_⟩
          rw [List.append_assoc]
          rfl
      · exact ⟨a :: first, rest, by rw [hcut]; rfl, hsuffix⟩

/-- A pair in a text that begins with a part without one, not even with half of it behind, is behind this
part. -/
theorem pair_behind {c : Char} {literal text before behind : List Char}
    (hnone : ¬ [c, c] <:+: literal ++ [c]) (h : literal ++ text = before ++ c :: c :: behind) :
    ∃ others, text = others ++ c :: c :: behind := by
  induction literal generalizing before with
  | nil => exact ⟨before, h⟩
  | cons a literal ih =>
    rw [List.cons_append, pair_infix_cons] at hnone
    rcases before with _ | ⟨b, before⟩
    · obtain ⟨rfl, hrest⟩ := List.cons.inj h
      refine absurd (.inl ⟨rfl, ?_⟩) hnone
      rcases literal with _ | ⟨b, literal⟩
      · rfl
      · exact congrArg some (List.cons.inj hrest).1
    · exact ih (fun hpairs => hnone (.inr hpairs)) (List.cons.inj h).2

end Text

namespace Interpolation

open Pattern (Match)

/-! ## Where the holes are -/

/-- **The interpolation of a text in the default grammar.**  The hole is at the first pair of opening braces
and ends with the first pair of closing braces behind it, and what is behind that is as is said; without
such pairs the text is literal. -/
inductive Braced : List Char → Interpolation → Prop
  | tail {cs} (hnone : ∀ before inside behind,
      cs ≠ before ++ '\x7b' :: '\x7b' :: (inside ++ '\x7d' :: '\x7d' :: behind)) :
      Braced cs ⟨[], String.ofList cs⟩
  | hole {literal expression behind text} (hopen : ¬ ['\x7b', '\x7b'] <:+: literal ++ ['\x7b'])
      (hclose : ¬ ['\x7d', '\x7d'] <:+: expression ++ ['\x7d']) (hbehind : Braced behind text) :
      Braced (literal ++ '\x7b' :: '\x7b' :: (expression ++ '\x7d' :: '\x7d' :: behind))
        (cons (String.ofList literal) ⟨String.ofList expression⟩ text)

namespace Braced

variable {cs : List Char} {text : Interpolation}

/-- There is one interpolation only. -/
theorem unique {other : Interpolation} (h : Braced cs text) (hother : Braced cs other) :
    text = other := by
  induction h generalizing other with
  | @tail cs hnone =>
    rcases hother with _ | ⟨_, _, _⟩
    · rfl
    · exact absurd rfl (hnone _ _ _)
  | @hole literal expression behind text hopen hclose _ ih =>
    generalize hcs : literal ++ '\x7b' :: '\x7b' :: (expression ++ '\x7d' :: '\x7d' :: behind) = cs
      at hother
    rcases hother with hnone | ⟨hopen', hclose', hbehind'⟩
    · exact absurd hcs.symm (hnone _ _ _)
    · next literal' expression' behind' text' =>
      have houter := (Text.cut?_eq_some.2 ⟨hcs.symm, hopen⟩).symm.trans
        (Text.cut?_eq_some.2 ⟨rfl, hopen'⟩)
      obtain ⟨rfl, hinner⟩ := Prod.mk.inj (Option.some.inj houter)
      have hinner := (Text.cut?_eq_some.2 ⟨hinner.symm, hclose⟩).symm.trans
        (Text.cut?_eq_some.2 ⟨rfl, hclose'⟩)
      obtain ⟨rfl, rfl⟩ := Prod.mk.inj (Option.some.inj hinner)
      rw [ih hbehind']

/-- It shows as the text again. -/
theorem display (h : Braced cs text) : text.display = String.ofList cs := by
  induction h with
  | tail => rfl
  | @hole literal expression behind text _ _ _ ih =>
    have hcons : (cons (String.ofList literal) ⟨String.ofList expression⟩ text).display =
        String.ofList literal ++ "\x7b\x7b" ++ String.ofList expression ++ "\x7d\x7d" ++ text.display := rfl
    rw [hcons, ih, ← String.toList_inj]
    simp

/-- No path has a pair of closing braces. -/
theorem paths (h : Braced cs text) : ∀ path ∈ text.paths, ¬ ['\x7d', '\x7d'] <:+: path.text.toList := by
  induction h with
  | tail => exact fun _ hpath => absurd hpath List.not_mem_nil
  | @hole literal expression behind text _ hclose _ ih =>
    refine List.forall_mem_cons.2 ⟨fun hpairs => ?_, ih⟩
    rw [String.toList_ofList] at hpairs
    exact hclose (hpairs.trans (List.infix_append' [] expression ['\x7d']))

/-- **The skeleton has no hole.** -/
theorem skeleton (h : Braced cs text) : Braced text.skeleton.toList ⟨[], text.skeleton⟩ := by
  have hnone : ∀ before inside behind, text.skeleton.toList ≠
      before ++ '\x7b' :: '\x7b' :: (inside ++ '\x7d' :: '\x7d' :: behind) := by
    induction h with
    | tail hnone =>
      intro before inside behind heq
      exact hnone before inside behind (String.toList_ofList.symm.trans heq)
    | @hole literal expression behind' text hopen _ _ ih =>
      intro before inside behind heq
      have hcons : (cons (String.ofList literal) ⟨String.ofList expression⟩ text).skeleton.toList =
          literal ++ text.skeleton.toList := by
        rw [← String.toList_ofList (l := literal), ← String.toList_append, String.ofList_toList]
        rfl
      obtain ⟨others, hothers⟩ := Text.pair_behind hopen (hcons.symm.trans heq)
      exact ih others inside behind hothers
  have htail := Braced.tail hnone
  rwa [String.ofList_toList] at htail

end Braced

/-! ## The interpolation of a text -/

open Placeholder (braces default)

/-- A match between braces leaves a hole behind the literal, and what is behind the match is left. -/
theorem ofMatches_braces {cs literal expression behind : List Char} {place : Nat}
    (hcs : cs.drop place = literal ++ '\x7b' :: '\x7b' :: (expression ++ '\x7d' :: '\x7d' :: behind))
    (found : List Match) :
    let m : Match := ⟨0 + literal.length, 0 + literal.length + 2 + expression.length + 2,
      some (0 + literal.length + 2, 0 + literal.length + 2 + expression.length)⟩
    cs.drop (place + m.stop) = behind ∧
      ofMatches cs place (m.shift place :: found) =
        cons (String.ofList literal) ⟨String.ofList expression⟩ (ofMatches cs (place + m.stop) found) := by
  intro m
  have hinside : cs.drop place = literal ++ ['\x7b', '\x7b'] ++ expression ++ '\x7d' :: '\x7d' :: behind := by
    simp only [hcs, List.append_assoc, List.cons_append, List.nil_append]
  have hbefore : cs.drop place =
      literal ++ ['\x7b', '\x7b'] ++ expression ++ ['\x7d', '\x7d'] ++ behind := by
    simp only [hcs, List.append_assoc, List.cons_append, List.nil_append]
  have hopened : (literal ++ ['\x7b', '\x7b']).length = 0 + literal.length + 2 := by
    rw [List.length_append, Nat.zero_add]
    rfl
  have hliteral : Text.between cs place (m.shift place).start = literal := by
    have htake : Text.between (cs.drop place) 0 m.start = literal := by
      rw [hcs]
      exact List.take_left' (Nat.zero_add _).symm
    exact (Text.between_drop cs place 0 m.start).symm.trans htake
  have hcaptured : (m.shift place).captured? cs = some expression := by
    rw [Match.captured?_shift]
    change some (((cs.drop place).take (0 + literal.length + 2 + expression.length)).drop
      (0 + literal.length + 2)) = _
    rw [hinside, List.take_left' (by rw [List.length_append, hopened]), List.drop_left' hopened]
  refine ⟨?_, by rw [ofMatches, hcaptured, hliteral]; rfl⟩
  rw [← List.drop_drop, hbefore]
  exact List.drop_left' (by rw [List.length_append, List.length_append, hopened]; rfl)

theorem braced_occurrencesFrom (cs : List Char) : ∀ (fuel : Nat) (adjacent : Bool)
    (before? : Option Char) (place : Nat), (cs.drop place).length < fuel →
    Braced (cs.drop place)
      (ofMatches cs place (braces.occurrencesFrom fuel adjacent before? place (cs.drop place)))
  | 0, _, _, _, h => absurd h (Nat.not_lt_zero _)
  | fuel + 1, adjacent, before?, place, h => by
    rw [Pattern.occurrencesFrom, Pattern.find?_braces, Pattern.bracedIn]
    rcases houter : Text.cut? '\x7b' (cs.drop place) with _ | ⟨literal, inner⟩
    · refine .tail fun before inside behind hcs => ?_
      obtain ⟨first, rest, hcut, -⟩ :=
        Text.exists_cut?_eq_some '\x7b' before (inside ++ '\x7d' :: '\x7d' :: behind)
      rw [← hcs, houter] at hcut
      exact absurd hcut.symm (Option.some_ne_none _)
    rw [Option.bind_some, Pattern.closedIn]
    rcases hinner : Text.cut? '\x7d' inner with _ | ⟨expression, behind⟩
    · refine .tail fun before inside behind hcs => ?_
      obtain ⟨first, rest, hcut, hsuffix⟩ :=
        Text.exists_cut?_eq_some '\x7b' before (inside ++ '\x7d' :: '\x7d' :: behind)
      rw [← hcs, houter] at hcut
      obtain ⟨rfl, rfl⟩ := Prod.mk.inj (Option.some.inj hcut)
      obtain ⟨skipped, hskipped⟩ := hsuffix
      obtain ⟨first, rest, hcut, -⟩ := Text.exists_cut?_eq_some '\x7d' (skipped ++ inside) behind
      rw [List.append_assoc, hskipped, hinner] at hcut
      exact absurd hcut.symm (Option.some_ne_none _)
    · obtain ⟨hcs, hopen⟩ := Text.cut?_eq_some.1 houter
      obtain ⟨rfl, hclose⟩ := Text.cut?_eq_some.1 hinner
      have hspan : 0 + literal.length < 0 + literal.length + 2 + expression.length + 2 := by omega
      have hrefused : ¬ (adjacent ∧ 0 + literal.length + 2 + expression.length + 2 = 0) := by omega
      have hdrop := (ofMatches_braces hcs []).1
      have hshorter : (cs.drop (place + (0 + literal.length + 2 + expression.length + 2))).length < fuel := by
        rw [hcs] at h
        rw [hdrop]
        simp at h
        omega
      have hbehind := fun before? => braced_occurrencesFrom cs fuel true before? _ hshorter
      simp only [Option.map_some, if_pos hspan, if_neg hrefused, List.drop_drop, List.singleton_append]
      rw [(ofMatches_braces hcs _).2, hcs]
      exact .hole hopen hclose (cast (congrArg (Braced · _) hdrop) (hbehind _))

/-- **The interpolation of a text is the one in the default grammar.** -/
theorem braced_ofText (raw : String) : Braced raw.toList (ofText default raw) :=
  braced_occurrencesFrom raw.toList _ false none 0 (Nat.lt_succ_self _)

/-- **Texts in the default grammar.**  The holes of a text are at the first pair of opening braces, up to the
first pair of closing ones behind it, and so on; no path has a pair of closing braces; the interpolation
shows as the text again; and its skeleton is a text without a hole. -/
theorem ofText_default_round_trips (raw : String) :
    (∀ text, Braced raw.toList text ↔ text = ofText default raw) ∧
      (∀ path ∈ (ofText default raw).paths, ¬ ['\x7d', '\x7d'] <:+: path.text.toList) ∧
      (ofText default raw).display = raw ∧
      ofText default (ofText default raw).skeleton = ⟨[], (ofText default raw).skeleton⟩ := by
  have hbraced := braced_ofText raw
  refine ⟨fun text => ⟨fun h => h.unique hbraced, fun h => h ▸ hbraced⟩, hbraced.paths, ?_, ?_⟩
  · rw [hbraced.display, String.ofList_toList]
  · exact (braced_ofText _).unique hbraced.skeleton

/-- In a run of braces the hole begins with the first two opening braces and ends with the first two closing
ones. -/
example : ofText default "\x7b\x7b\x7ba\x7d\x7d\x7d" = ⟨[("", ⟨"\x7ba"⟩)], "\x7d"⟩ := by decide +kernel

end Interpolation

end Stencil
