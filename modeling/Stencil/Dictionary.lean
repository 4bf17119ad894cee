import Stencil.Assoc

/-!
# Dictionary — named values, each name once, in the order of their names

A dictionary has one representation for each content: its entries stand in strictly increasing
order, so the order in which names were bound leaves no trace.  Names compare character by
character, which is also the order of their bytes.
-/

namespace Stencil

/-- Named values in strictly increasing order of their names. -/
structure Dictionary (α : Type) where
  entries : Assoc α
  increasing : entries.Pairwise (fun a b => a.1 < b.1)

namespace Dictionary

variable {α : Type}

/-- No name is bound. -/
def empty : Dictionary α := ⟨[], List.Pairwise.nil⟩

/-- The bound names, in order. -/
def names (d : Dictionary α) : List String := Assoc.names d.entries

/-- The value bound to `name`. -/
def find? (d : Dictionary α) (name : String) : Option α := Assoc.find? name d.entries

/-- The entries with `name` bound to `value`, put where the order wants it. -/
def insertEntry (name : String) (value : α) : Assoc α → Assoc α
  | [] => [(name, value)]
  | (key, old) :: rest =>
      if name < key then (name, value) :: (key, old) :: rest
      else if key < name then (key, old) :: insertEntry name value rest
      else (name, value) :: rest

/-- An inserted entry is the new one or an old one. -/
theorem mem_insertEntry {name : String} {value : α} {e : String × α} :
    ∀ {l : Assoc α}, e ∈ insertEntry name value l → e = (name, value) ∨ e ∈ l
  | [], h => .inl (by simpa [insertEntry] using h)
  | (key, old) :: rest, h => by
      simp only [insertEntry] at h
      split at h
      · simpa using h
      · split at h
        · rcases List.mem_cons.1 h with h | h
          · exact .inr (by simp [h])
          · exact (mem_insertEntry h).imp id (List.mem_cons_of_mem _)
        · rcases List.mem_cons.1 h with h | h
          · exact .inl h
          · exact .inr (List.mem_cons_of_mem _ h)

/-- **Insertion keeps the order.** -/
theorem pairwise_insertEntry {name : String} {value : α} :
    ∀ {l : Assoc α}, l.Pairwise (fun a b => a.1 < b.1) →
      (insertEntry name value l).Pairwise (fun a b => a.1 < b.1)
  | [], _ => by simp [insertEntry]
  | (key, old) :: rest, h => by
      obtain ⟨hkey, hrest⟩ := List.pairwise_cons.1 h
      simp only [insertEntry]
      split
      · next hlt =>
        refine List.pairwise_cons.2 ⟨fun e he => ?_, h⟩
        rcases List.mem_cons.1 he with rfl | he
        · exact hlt
        · exact String.lt_trans hlt (hkey e he)
      · split
        · next hlt =>
          refine List.pairwise_cons.2 ⟨fun e he => ?_, pairwise_insertEntry hrest⟩
          rcases mem_insertEntry he with rfl | he
          · exact hlt
          · exact hkey e he
        · next hnot hnot' =>
          have heq : name = key := String.le_antisymm (String.not_lt.1 hnot')
            (String.not_lt.1 hnot)
          exact List.pairwise_cons.2 ⟨fun e he => heq ▸ hkey e he, hrest⟩

/-- Bind `name` to `value`, replacing an older binding. -/
def insert (d : Dictionary α) (name : String) (value : α) : Dictionary α :=
  ⟨insertEntry name value d.entries, pairwise_insertEntry d.increasing⟩

/-- Bind several names one after another; a later binding of a name wins. -/
def insertAll (d : Dictionary α) (bindings : Assoc α) : Dictionary α :=
  bindings.foldl (fun d binding => d.insert binding.1 binding.2) d

/-- Unbind `name`. -/
def erase (d : Dictionary α) (name : String) : Dictionary α :=
  ⟨d.entries.filter (fun e => e.1 ≠ name), d.increasing.filter _⟩

/-- Dictionaries with the same entries are the same. -/
theorem ext_entries {d e : Dictionary α} (h : d.entries = e.entries) : d = e := by
  cases d; cases e; cases h; rfl

instance [DecidableEq α] : DecidableEq (Dictionary α) := fun d e =>
  if h : d.entries = e.entries then isTrue (ext_entries h)
  else isFalse (fun hd => h (congrArg entries hd))

end Dictionary

end Stencil
