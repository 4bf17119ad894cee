import Mathlib.Data.List.Basic
import Stencil.Proofs.Dictionary
import Stencil.Proofs.Except

/-!
# Proofs/Assoc/Firsts — entries with repeated names

    entries ──firsts──▸ the first entry of each name

Reading finds the first entry of a name and nothing of the others (`find?_firsts`).  Whatever walks over
names with repetitions does its work once more for each repetition.  Where one entry is removed for each
time a name comes up, all of this name are (`foldl_erase_names`), and where a value is written again, it is
there already (`foldl_put_single`): in the end only the first entries count.
-/

namespace Stencil

namespace Assoc

variable {α β ε : Type} {name : String} {l : Assoc α}

/-- The first entry of each name, in order. -/
def firsts : Assoc α → Assoc α
  | [] => []
  | entry :: rest => entry :: (firsts rest).filter fun other => other.1 ≠ entry.1

theorem firsts_sublist (l : Assoc α) : (firsts l).Sublist l := by
  induction l with
  | nil => exact .slnil
  | cons entry rest ih => exact (List.filter_sublist.trans ih).cons_cons entry

theorem nodup_names_firsts (l : Assoc α) : (names (firsts l)).Nodup := by
  induction l with
  | nil => exact .nil
  | cons entry rest ih =>
    refine List.nodup_cons.2 ⟨fun hmem => ?_, nodup_names_filter _ ih⟩
    obtain ⟨other, hother, hname⟩ := List.mem_map.1 hmem
    exact of_decide_eq_true (List.mem_filter.1 hother).2 hname

/-- **Only the first entries are read.** -/
theorem find?_firsts (l : Assoc α) : find? name (firsts l) = find? name l := by
  induction l with
  | nil => rfl
  | cons entry rest ih =>
    obtain ⟨key, value⟩ := entry
    rw [firsts, find?, find?]
    split
    · rfl
    · next hkey =>
      have hkept : decide (name ≠ key) = true := decide_eq_true (Ne.symm hkey)
      rw [find?_filter (p := fun n => decide (n ≠ key)) hkept, ih]

/-- Distinct names are all first. -/
theorem firsts_of_nodup (h : (names l).Nodup) : firsts l = l := by
  induction l with
  | nil => rfl
  | cons entry rest ih =>
    obtain ⟨hnew, hrest⟩ := List.nodup_cons.1 h
    rw [firsts, ih hrest, List.filter_eq_self.2]
    exact fun other hother => decide_eq_true fun hname => hnew (hname ▸ List.mem_map_of_mem hother)

/-! ## Erasing names one by one -/

/-- Erasing other names leaves the first entry. -/
theorem foldl_erase_cons {ns : List String} (entry : String × α) (h : entry.1 ∉ ns) (l : Assoc α) :
    ns.foldl (fun l n => erase n l) (entry :: l) = entry :: ns.foldl (fun l n => erase n l) l := by
  induction ns generalizing l with
  | nil => rfl
  | cons n rest ih =>
    obtain ⟨hn, hrest⟩ := not_or.1 (List.mem_cons.not.1 h)
    rw [List.foldl_cons, List.foldl_cons, erase, if_neg hn, ih hrest]

/-- **Erased as often as they come up**, names are gone. -/
theorem foldl_erase_names (p : String → Bool) (l : Assoc α) :
    ((names l).filter p).foldl (fun l n => erase n l) l = l.filter fun entry => !p entry.1 := by
  induction l with
  | nil => rfl
  | cons entry rest ih =>
    obtain ⟨key, value⟩ := entry
    rcases hkey : p key with _ | _
    · have hnot : key ∉ (names rest).filter p := fun hmem =>
        Bool.eq_false_iff.1 hkey (List.mem_filter.1 hmem).2
      rw [names, List.map_cons, List.filter_cons_of_neg (by simp [hkey]),
        List.filter_cons_of_pos (by simp [hkey])]
      exact (foldl_erase_cons (key, value) hnot rest).trans (congrArg _ ih)
    · rw [names, List.map_cons, List.filter_cons_of_pos hkey,
        List.filter_cons_of_neg (by simp [hkey]), List.foldl_cons, erase, if_pos rfl]
      exact ih

/-! ## Writing values again -/

/-- An entry at the end is a first one if its name has not come up. -/
theorem firsts_concat (l : Assoc α) (entry : String × α) :
    firsts (l ++ [entry]) = if entry.1 ∈ names l then firsts l else firsts l ++ [entry] := by
  induction l with
  | nil => rfl
  | cons e rest ih =>
    rw [List.cons_append, firsts, ih, firsts]
    by_cases hsame : entry.1 = e.1
    · have hmem : entry.1 ∈ names (e :: rest) := List.mem_cons.2 (.inl hsame)
      rw [if_pos hmem]
      split
      · rfl
      · rw [List.filter_append, List.filter_cons_of_neg (by simpa using hsame), List.filter_nil,
          List.append_nil]
    · have hiff : entry.1 ∈ names (e :: rest) ↔ entry.1 ∈ names rest :=
        List.mem_cons.trans (or_iff_right hsame)
      simp only [hiff]
      split
      · rfl
      · rw [List.filter_append, List.filter_cons_of_pos (by simpa using hsame), List.filter_nil,
          List.cons_append]

/-- **Values that are one for each new name are written behind the others**, each name once. -/
theorem foldl_put_single {values : Assoc α} (hsingle : Single values)
    (hnew : ∀ e ∈ values, e.1 ∉ names l) :
    values.foldl (fun l e => put e.1 e.2 l) l = l ++ firsts values := by
  -- from the end: the last value is there already, or its name is new
  induction values using List.reverseRecOn with
  | nil => exact (List.append_nil l).symm
  | append_singleton before last ih =>
    obtain ⟨hbefore, hlast⟩ := List.forall_mem_append.1 hnew
    have hlast : last.1 ∉ names l := hlast last (.head _)
    have hwritten := ih (fun _ _ _ hvalue hother =>
      hsingle (List.mem_append_left _ hvalue) (List.mem_append_left _ hother)) hbefore
    rw [List.foldl_append, List.foldl_cons, List.foldl_nil, hwritten, firsts_concat]
    split
    · next hmem =>
      obtain ⟨value, hvalue⟩ := exists_find?_of_mem_names hmem
      have hsame : value = last.2 := hsingle (List.mem_append_left _ (mem_of_find? hvalue))
        (List.mem_append_right _ (.head _))
      refine put_of_find? ?_
      rw [find?_append, find?_eq_none hlast, find?_firsts, hvalue, hsame]
      rfl
    · next hmem =>
      have hall : last.1 ∉ names (l ++ firsts before) := by
        rw [names, List.map_append, List.mem_append]
        exact not_or.2 ⟨hlast, fun h => hmem (((firsts_sublist before).map Prod.fst).subset h)⟩
      rw [put_of_not_mem hall, List.append_assoc]

/-! ## Entries collected by name -/

/-- What there is for some names, in order and with repetitions. -/
def collect (look : String → Option β) (ns : List String) : Assoc β :=
  ns.filterMap fun name => (look name).map (name, ·)

theorem names_collect (look : String → Option β) (ns : List String) :
    names (collect look ns) = ns.filter fun name => (look name).isSome := by
  induction ns with
  | nil => rfl
  | cons name rest ih =>
    rw [collect, List.filterMap_cons, List.filter_cons]
    cases look name with
    | none => exact ih
    | some value => exact congrArg (name :: ·) ih

/-- **The first of what there is** for the names of some entries is what there is for the first ones. -/
theorem firsts_collect (look : String → Option β) (l : Assoc α) :
    firsts (collect look (names l)) =
      (firsts l).filterMap fun entry => (look entry.1).map (entry.1, ·) := by
  induction l with
  | nil => rfl
  | cons entry rest ih =>
    rw [names, List.map_cons, collect, List.filterMap_cons, firsts, List.filterMap_cons,
      List.filterMap_filter]
    cases hlook : look entry.1 with
    | none =>
      simp only [Option.map_none]
      refine ih.trans (List.filterMap_congr fun other _ => ?_)
      by_cases hname : other.1 = entry.1 <;> simp [hname, hlook]
    | some value =>
      change (entry.1, value) :: (firsts (collect look (names rest))).filter _ = (entry.1, value) :: _
      rw [ih, List.filter_filterMap]
      refine congrArg _ (List.filterMap_congr fun other _ => ?_)
      by_cases hname : other.1 = entry.1 <;> cases look other.1 <;> simp [hname]

/-! ## One result for each entry -/

section Results

variable {f : α → Except ε β}

/-- Results are left out with their entries, if these have results at all. -/
theorem mapM_filter (p : String → Bool)
    (h : ∀ e ∈ l, p e.1 = false → ∃ result, f e.2 = .ok result) :
    ((l.filter fun e => p e.1).mapM fun e => (f e.2).map (e.1, ·)) =
      (l.mapM fun e => (f e.2).map (e.1, ·)).map fun results => results.filter fun r => p r.1 := by
  induction l with
  | nil => rfl
  | cons e rest ih =>
    have hrest := ih fun other hother => h other (.tail _ hother)
    rw [List.mapM_cons]
    rcases hkept : p e.1 with _ | _
    · obtain ⟨result, hresult⟩ := h e (.head _) hkept
      rw [List.filter_cons_of_neg (by simp [hkept]), hrest, hresult]
      generalize rest.mapM (fun e => (f e.2).map (e.1, ·)) = others
      cases others with
      | error error => rfl
      | ok others => exact congrArg Except.ok (List.filter_cons_of_neg (by simp [hkept])).symm
    · rw [List.filter_cons_of_pos (by simp [hkept]), List.mapM_cons, hrest]
      generalize rest.mapM (fun e => (f e.2).map (e.1, ·)) = others
      cases f e.2 with
      | error error => rfl
      | ok result =>
        cases others with
        | error error => rfl
        | ok others => exact congrArg Except.ok (List.filter_cons_of_pos (by simp [hkept])).symm

/-- **The results of the first entries are the first results**, and their first error is that of all. -/
theorem mapM_firsts (h : Single l) :
    ((firsts l).mapM fun e => (f e.2).map (e.1, ·)) =
      (l.mapM fun e => (f e.2).map (e.1, ·)).map firsts := by
  induction l with
  | nil => rfl
  | cons e rest ih =>
    rw [firsts, List.mapM_cons, List.mapM_cons]
    rcases hresult : f e.2 with error | result
    · rfl
    · -- what is left out comes under the name of the head, so it has the result of the head
      have hrepeated : ∀ other ∈ firsts rest, decide (other.1 ≠ e.1) = false →
          ∃ result, f other.2 = .ok result := by
        intro other hother hname
        have hname : other.1 = e.1 := by simpa using hname
        have hvalue : other.2 = e.2 :=
          h (hname ▸ .tail _ ((firsts_sublist rest).subset hother)) (.head _)
        exact ⟨result, hvalue ▸ hresult⟩
      rw [mapM_filter (fun name => decide (name ≠ e.1)) hrepeated, ih h.tail]
      generalize rest.mapM (fun e => (f e.2).map (e.1, ·)) = others
      cases others <;> rfl

/-- What is found among results is the result of what is found. -/
theorem find?_mapM {results : Assoc β}
    (h : (l.mapM fun e => (f e.2).map (e.1, ·)) = .ok results) :
    (find? name l).mapM f = .ok (find? name results) := by
  induction l generalizing results with
  | nil => exact Except.ok.inj h ▸ rfl
  | cons e rest ih =>
    rw [List.mapM_cons] at h
    obtain ⟨first, hfirst, h⟩ := Except.ok_of_bind h
    obtain ⟨others, hothers, h⟩ := Except.ok_of_bind h
    obtain ⟨result, hresult, rfl⟩ := Except.ok_of_map hfirst
    obtain rfl := Except.ok.inj h
    obtain ⟨key, value⟩ := e
    rw [find?, find?]
    split
    · exact congrArg (Except.map some) hresult
    · exact ih hothers

end Results

end Assoc

end Stencil
