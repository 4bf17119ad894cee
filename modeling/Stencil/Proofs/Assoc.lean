import Mathlib.Data.List.Induction
import Stencil.Assoc

/-!
# Proofs/Assoc — what is read of entries

If no name is repeated, reading finds every entry (`find?_of_mem`).  Entries that are left out by their
names are not found, and the others as before.  A value that is written is read again (`find?_put`), so of
entries written one after another the last of a name counts.
-/

namespace Stencil

namespace Assoc

variable {α : Type} {name : String} {value : α} {l : Assoc α}

/-- Every entry has a name. -/
theorem mem_names (h : (name, value) ∈ l) : name ∈ names l := List.mem_map_of_mem h

theorem find?_eq_none (h : name ∉ names l) : find? name l = none := by
  induction l with
  | nil => rfl
  | cons entry rest ih =>
    have hkey : entry.1 ≠ name := fun hkey => h (hkey ▸ List.mem_cons_self)
    rw [find?, if_neg hkey]
    exact ih fun hrest => h (List.mem_cons_of_mem _ hrest)

/-- A name that comes up is found. -/
theorem exists_find?_of_mem_names (h : name ∈ names l) : ∃ value, find? name l = some value := by
  induction l with
  | nil => exact absurd h List.not_mem_nil
  | cons entry rest ih =>
    obtain ⟨key, value⟩ := entry
    by_cases hkey : key = name
    · exact ⟨value, by rw [find?, if_pos hkey]⟩
    · rw [find?, if_neg hkey]
      exact ih ((List.mem_cons.1 h).resolve_left (Ne.symm hkey))

/-- What is found is there. -/
theorem mem_of_find? (h : find? name l = some value) : (name, value) ∈ l := by
  induction l with
  | nil => exact nomatch h
  | cons entry rest ih =>
    obtain ⟨key, old⟩ := entry
    rw [find?] at h
    split at h
    · next hkey =>
      obtain rfl := Option.some.inj h
      exact hkey ▸ List.mem_cons_self
    · exact List.mem_cons_of_mem _ (ih h)

/-- **Distinct names are all found.** -/
theorem find?_of_mem (hdistinct : (names l).Nodup) (h : (name, value) ∈ l) :
    find? name l = some value := by
  induction l with
  | nil => exact nomatch h
  | cons entry rest ih =>
    obtain ⟨hnew, hrest⟩ := List.nodup_cons.1 hdistinct
    rcases List.mem_cons.1 h with rfl | h
    · rw [find?, if_pos rfl]
    · have hkey : entry.1 ≠ name := fun hkey => hnew (hkey ▸ mem_names h)
      rw [find?, if_neg hkey, ih hrest h]

/-- Of two lists the first one is read first. -/
theorem find?_append (a b : Assoc α) : find? name (a ++ b) = (find? name a).or (find? name b) := by
  induction a with
  | nil => rfl
  | cons entry rest ih =>
    obtain ⟨key, value⟩ := entry
    rw [List.cons_append, find?, find?, ih]
    split <;> rfl

/-- What is left in by name is read as before. -/
theorem find?_filter {key : String} {p : String → Bool} (h : p key = true) (l : Assoc α) :
    find? key (l.filter fun entry => p entry.1) = find? key l := by
  induction l with
  | nil => rfl
  | cons entry rest ih =>
    obtain ⟨other, old⟩ := entry
    rw [List.filter_cons]
    split
    · rw [Assoc.find?, Assoc.find?, ih]
    · next hkept =>
      have hkey : other ≠ key := fun hkey => hkept (hkey ▸ h)
      rw [ih, Assoc.find?, if_neg hkey]

/-- What is left out by name is not read. -/
theorem find?_filter_of_eq_false {p : String → Bool} (h : p name = false) :
    find? name (l.filter fun entry => p entry.1) = none := by
  refine find?_eq_none fun hmem => ?_
  obtain ⟨entry, hentry, rfl⟩ := List.mem_map.1 hmem
  exact Bool.eq_false_iff.1 h (List.mem_filter.1 hentry).2

/-- Fewer entries have fewer names. -/
theorem nodup_names_filter (p : String × α → Bool) (h : (names l).Nodup) :
    (names (l.filter p)).Nodup :=
  h.sublist (List.filter_sublist.map _)

/-- Of distinct names an entry's own is among those of some entries only if the entry is. -/
theorem mem_names_filter {p : String × α → Bool} {entry : String × α} (hdistinct : (names l).Nodup)
    (hmem : entry ∈ l) : entry.1 ∈ names (l.filter p) ↔ p entry = true := by
  refine ⟨fun hname => ?_, fun hp => List.mem_map_of_mem (List.mem_filter.2 ⟨hmem, hp⟩)⟩
  obtain ⟨other, hother, hname⟩ := List.mem_map.1 hname
  obtain ⟨hother, hp⟩ := List.mem_filter.1 hother
  have hsame : some other.2 = some entry.2 :=
    (find?_of_mem hdistinct hother).symm.trans (hname ▸ find?_of_mem hdistinct hmem)
  exact (Prod.ext hname (Option.some.inj hsame) : other = entry) ▸ hp

/-- Distinct names are distinct in any order. -/
theorem nodup_names_split (p : String × α → Bool) (h : (names l).Nodup) :
    (names (l.filter fun e => !p e) ++ names (l.filter p)).Nodup := by
  rw [names, names, ← List.map_append]
  have hperm := List.perm_append_comm.trans (List.filter_append_perm p l)
  exact (hperm.map Prod.fst).nodup_iff.2 h

/-- A new name is written behind the others. -/
theorem put_of_not_mem (h : name ∉ names l) : put name value l = l ++ [(name, value)] := by
  induction l with
  | nil => rfl
  | cons entry rest ih =>
    have hkey : entry.1 ≠ name := fun hkey => h (hkey ▸ List.mem_cons_self)
    rw [put, if_neg hkey, ih fun hrest => h (List.mem_cons_of_mem _ hrest)]
    rfl

/-- What is found already changes nothing when it is written. -/
theorem put_of_find? {value : α} (h : find? name l = some value) : put name value l = l := by
  induction l with
  | nil => exact absurd h.symm (Option.some_ne_none value)
  | cons entry rest ih =>
    obtain ⟨key, old⟩ := entry
    rw [find?] at h
    rw [put]
    split at h
    · next hkey =>
      obtain rfl := Option.some.inj h
      rw [if_pos hkey]
    · next hkey => rw [if_neg hkey, ih h]

/-- A value that was written is read again, and the other names keep theirs. -/
theorem find?_put (key : String) (l : Assoc α) :
    find? name (put key value l) = if key = name then some value else find? name l := by
  induction l with
  | nil => rfl
  | cons entry rest ih =>
    obtain ⟨other, old⟩ := entry
    by_cases hother : other = key
    · rw [put, if_pos hother, find?, find?, hother]
      split <;> rfl
    · rw [put, if_neg hother, find?, find?, ih]
      split
      · next hname => rw [if_neg fun hkey => hother (hname.trans hkey.symm)]
      · rfl

theorem ofEntries_concat (l : Assoc α) (entry : String × α) :
    ofEntries (l ++ [entry]) = put entry.1 entry.2 (ofEntries l) := by
  rw [ofEntries, List.foldl_append]
  rfl

/-- **Of entries written one after another the last of a name counts.** -/
theorem find?_ofEntries (entries : Assoc α) (name : String) :
    find? name (ofEntries entries) = entries.reverse.lookup name := by
  induction entries using List.reverseRecOn with
  | nil => rfl
  | append_singleton before last ih =>
    obtain ⟨key, value⟩ := last
    rw [ofEntries_concat, find?_put, ih, List.reverse_append, List.reverse_singleton, List.singleton_append,
      List.lookup_cons]
    by_cases hkey : key = name
    · rw [if_pos hkey, hkey, beq_self_eq_true]
    · rw [if_neg hkey, beq_false_of_ne (Ne.symm hkey)]

end Assoc

end Stencil
