import Stencil.Proofs.Dictionary

/-!
# Proofs/Assoc/Places — names keep their places

A value that is written under a name that is there stays in its place, and a new name goes behind the
others (`names_put`, `written_put`); erasing takes one place away (`names_erase`, `erased_erase`).  So
distinct names stay distinct, and of entries written one after another each name has the place where it
first came up (`names_ofEntries`) and the value that came last (`find?_ofEntries_eq_some`).  A dictionary
forgets the places and keeps the values (`Dictionary.find?_empty_insertAll_eq_some`).
-/

namespace Stencil

namespace Assoc

variable {α : Type} {name : String} {value : α} {l a b : Assoc α} {entry : String × α}

@[simp] theorem names_nil : names ([] : Assoc α) = [] := rfl

@[simp] theorem names_cons (entry : String × α) (l : Assoc α) :
    names (entry :: l) = entry.1 :: names l := rfl

@[simp] theorem names_append (a b : Assoc α) : names (a ++ b) = names a ++ names b :=
  List.map_append

/-! ## Writing and erasing -/

/-- **A name that is there keeps its place**, a new one goes behind the others. -/
theorem names_put (name : String) (value : α) (l : Assoc α) :
    names (put name value l) = if name ∈ names l then names l else names l ++ [name] := by
  induction l with
  | nil => rfl
  | cons entry rest ih =>
    obtain ⟨key, old⟩ := entry
    rw [put]
    by_cases hkey : key = name
    · rw [if_pos hkey, names_cons, names_cons, if_pos (List.mem_cons.2 (.inl hkey.symm))]
    · simp only [if_neg hkey, names_cons, ih, List.mem_cons, Ne.symm hkey, false_or]
      split <;> rfl

/-- Writing repeats no name. -/
theorem nodup_names_put (h : (names l).Nodup) : (names (put name value l)).Nodup := by
  rw [names_put]
  split
  · exact h
  · next hnew =>
    exact (List.nodup_cons.2 ⟨hnew, h⟩).perm (List.perm_append_singleton name (names l)).symm

/-- **Erasing takes the first place of a name away.** -/
theorem names_erase (name : String) (l : Assoc α) : names (erase name l) = (names l).erase name := by
  induction l with
  | nil => rfl
  | cons entry rest ih =>
    rw [erase, names_cons, List.erase_cons]
    by_cases hkey : entry.1 = name
    · rw [if_pos hkey, if_pos (beq_iff_eq.2 hkey)]
    · rw [if_neg hkey, if_neg (by simpa using hkey), names_cons, ih]

/-- Erasing repeats no name. -/
theorem nodup_names_erase (h : (names l).Nodup) : (names (erase name l)).Nodup := by
  rw [names_erase]
  exact h.erase name

/-- Entries with a value written under a name: in the place that the name has, or behind the others. -/
inductive Written (name : String) (value : α) : Assoc α → Assoc α → Prop
  | inPlace (before : Assoc α) (old : α) (after : Assoc α) (first : name ∉ names before) :
      Written name value (before ++ (name, old) :: after) (before ++ (name, value) :: after)
  | last {entries : Assoc α} (new : name ∉ names entries) :
      Written name value entries (entries ++ [(name, value)])

/-- Entries without the one of a name, if there is one. -/
inductive Erased (name : String) : Assoc α → Assoc α → Prop
  | entry (before : Assoc α) (old : α) (after : Assoc α) (first : name ∉ names before) :
      Erased name (before ++ (name, old) :: after) (before ++ after)
  | nothing {entries : Assoc α} (absent : name ∉ names entries) : Erased name entries entries

/-- A name that is not there is not there behind another one. -/
theorem not_mem_names_cons (hkey : entry.1 ≠ name) (h : name ∉ names a) : name ∉ names (entry :: a) :=
  fun hmem => (List.mem_cons.1 hmem).elim (Ne.symm hkey) h

theorem Written.cons (hkey : entry.1 ≠ name) :
    Written name value a b → Written name value (entry :: a) (entry :: b)
  | .inPlace before old after first =>
      .inPlace (entry :: before) old after (not_mem_names_cons hkey first)
  | .last new => .last (not_mem_names_cons hkey new)

theorem Erased.cons (hkey : entry.1 ≠ name) : Erased name a b → Erased name (entry :: a) (entry :: b)
  | .entry before old after first => .entry (entry :: before) old after (not_mem_names_cons hkey first)
  | .nothing absent => .nothing (not_mem_names_cons hkey absent)

/-- **Writing changes the one entry of the name**, or adds one at the end. -/
theorem written_put (name : String) (value : α) (l : Assoc α) :
    Written name value l (put name value l) := by
  induction l with
  | nil => exact .last List.not_mem_nil
  | cons entry rest ih =>
    obtain ⟨key, old⟩ := entry
    rw [put]
    split
    · next hkey => exact hkey ▸ .inPlace [] old rest List.not_mem_nil
    · next hkey => exact ih.cons hkey

/-- **Erasing takes the one entry of the name away**, or changes nothing. -/
theorem erased_erase (name : String) (l : Assoc α) : Erased name l (erase name l) := by
  induction l with
  | nil => exact .nothing List.not_mem_nil
  | cons entry rest ih =>
    obtain ⟨key, old⟩ := entry
    rw [erase]
    split
    · next hkey => exact hkey ▸ .entry [] old rest List.not_mem_nil
    · next hkey => exact ih.cons hkey

/-! ## Entries written one after another -/

/-- However often names were written, each comes up once. -/
theorem nodup_names_ofEntries (l : Assoc α) : (names (ofEntries l)).Nodup := by
  induction l using List.reverseRecOn with
  | nil => exact .nil
  | append_singleton before last ih =>
    rw [ofEntries_concat]
    exact nodup_names_put ih

/-- **Each name has the place where it first came up.** -/
theorem names_ofEntries (l : Assoc α) : names (ofEntries l) = (names l).eraseDups := by
  induction l using List.reverseRecOn with
  | nil => rfl
  | append_singleton before last ih =>
    rw [ofEntries_concat, names_put, ih, names_append, List.eraseDups_append]
    split
    · next hold => simp [List.removeAll, List.mem_eraseDups.1 hold]
    · next hnew => simp [List.removeAll, List.eraseDups_cons, mt List.mem_eraseDups.2 hnew]

/-- The value that comes last under a name. -/
def Last (l : Assoc α) (name : String) (value : α) : Prop :=
  ∃ before after, l = before ++ (name, value) :: after ∧ name ∉ names after

theorem lookup_reverse_eq_some : l.reverse.lookup name = some value ↔ l.Last name value := by
  rw [List.lookup_eq_some_iff]
  constructor
  · rintro ⟨after, before, hsplit, hnew⟩
    refine ⟨before.reverse, after.reverse, ?_, fun hmem => ?_⟩
    · rw [← List.reverse_reverse l, hsplit]
      simp
    · obtain ⟨entry, hentry, rfl⟩ := List.mem_map.1 hmem
      exact bne_iff_ne.1 (hnew entry (List.mem_reverse.1 hentry)) rfl
  · rintro ⟨before, after, rfl, hnew⟩
    refine ⟨after.reverse, before.reverse, by simp, fun entry hentry => bne_iff_ne.2 fun hname => ?_⟩
    exact hnew (hname ▸ List.mem_map_of_mem (List.mem_reverse.1 hentry))

/-- **Each name has the value that came last.** -/
theorem find?_ofEntries_eq_some : find? name (ofEntries l) = some value ↔ l.Last name value := by
  rw [find?_ofEntries, lookup_reverse_eq_some]

/-- A name comes up if and only if there is a value that comes last under it. -/
theorem mem_names_iff_exists_last : name ∈ names l ↔ ∃ value, l.Last name value := by
  simp only [← find?_ofEntries_eq_some]
  rw [← List.mem_eraseDups, ← names_ofEntries]
  exact ⟨exists_find?_of_mem_names, fun ⟨_, h⟩ => mem_names (mem_of_find? h)⟩

end Assoc

namespace Dictionary

variable {α : Type}

/-- **A dictionary keeps the values that came last.** -/
theorem find?_empty_insertAll_eq_some {l : Assoc α} {name : String} {value : α} :
    (empty.insertAll l).find? name = some value ↔ l.Last name value := by
  rw [← Assoc.lookup_reverse_eq_some]
  have hlookup : (empty.insertAll l).find? name = l.reverse.lookup name := by
    induction l using List.reverseRecOn with
    | nil => rfl
    | append_singleton before last ih =>
      have hinsert : empty.insertAll (before ++ [last]) =
          (empty.insertAll before).insert last.1 last.2 := by
        rw [insertAll, List.foldl_append]
        rfl
      rw [hinsert, find?_insert, ih, List.reverse_append, List.reverse_singleton,
        List.singleton_append, List.lookup_cons]
      by_cases hkey : last.1 = name
      · rw [if_pos hkey, hkey, beq_self_eq_true]
      · rw [if_neg hkey, beq_false_of_ne (Ne.symm hkey)]
  rw [hlookup]

/-- The names of a dictionary are those that are found in it. -/
theorem mem_names {d : Dictionary α} {name : String} :
    name ∈ d.names ↔ ∃ value, d.find? name = some value :=
  ⟨Assoc.exists_find?_of_mem_names, fun ⟨_, h⟩ => Assoc.mem_names (Assoc.mem_of_find? h)⟩

end Dictionary

end Stencil
