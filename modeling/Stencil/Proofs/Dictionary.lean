import Stencil.Dictionary
import Stencil.Proofs.Assoc

/-!
# Proofs/Dictionary — a dictionary is what is found in it

Binding and unbinding change what is found under one name only (`find?_insert`, `find?_erase`), and
dictionaries in which the same is found are the same (`ext_find?`).  So it does not matter in which order
names are bound, as long as each of them is bound to one value (`insertAll_congr`).
-/

namespace Stencil

namespace Assoc

variable {α : Type}

/-- Entries that give each name one value, however often. -/
def Single (l : Assoc α) : Prop :=
  ∀ ⦃name value other⦄, (name, value) ∈ l → (name, other) ∈ l → value = other

/-- Distinct names have one value each. -/
theorem single_of_nodup {l : Assoc α} (h : (names l).Nodup) : Single l := by
  intro name value other hvalue hother
  exact Option.some.inj ((find?_of_mem h hvalue).symm.trans (find?_of_mem h hother))

theorem Single.tail {entry : String × α} {l : Assoc α} (h : Single (entry :: l)) : Single l :=
  fun _ _ _ hvalue hother => h (List.mem_cons_of_mem _ hvalue) (List.mem_cons_of_mem _ hother)

end Assoc

namespace Dictionary

variable {α : Type} {d e : Dictionary α}

/-! ## What is found -/

theorem find?_insertEntry (name key : String) (value : α) (l : Assoc α) :
    Assoc.find? key (insertEntry name value l) =
      if name = key then some value else Assoc.find? key l := by
  induction l with
  | nil => rfl
  | cons entry rest ih =>
    obtain ⟨other, old⟩ := entry
    rw [insertEntry]
    split
    · rfl
    · split
      · next hafter =>
        have hother : other ≠ name := fun h => String.lt_irrefl name (h ▸ hafter)
        rw [Assoc.find?, Assoc.find?, ih]
        by_cases hkey : other = key
        · rw [if_pos hkey, if_pos hkey, if_neg (hkey ▸ hother.symm)]
        · rw [if_neg hkey, if_neg hkey]
      · next hbefore hafter =>
        obtain rfl : name = other :=
          String.le_antisymm (String.not_lt.1 hafter) (String.not_lt.1 hbefore)
        rw [Assoc.find?, Assoc.find?]
        split <;> rfl

/-- **Binding a name changes what is found under it** and nothing else. -/
theorem find?_insert (name key : String) (value : α) :
    (d.insert name value).find? key = if name = key then some value else d.find? key :=
  find?_insertEntry name key value d.entries

/-- **Unbinding a name leaves nothing under it** and changes nothing else. -/
theorem find?_erase (name key : String) :
    (d.erase name).find? key = if name = key then none else d.find? key := by
  split
  · next hkey =>
    refine Assoc.find?_eq_none fun hmem => ?_
    obtain ⟨entry, hentry, rfl⟩ := List.mem_map.1 hmem
    exact of_decide_eq_true (List.mem_filter.1 hentry).2 hkey.symm
  · next hkey =>
    have hkept : decide (key ≠ name) = true := decide_eq_true (Ne.symm hkey)
    exact Assoc.find?_filter (p := fun n => decide (n ≠ name)) hkept d.entries

theorem nodup_names (d : Dictionary α) : d.names.Nodup := by
  refine List.pairwise_map.2 (d.increasing.imp fun {a b} hlt => ?_)
  exact fun heq => String.lt_irrefl a.1 (heq ▸ hlt)

/-- What is found is what is there. -/
theorem find?_eq_some {name : String} {value : α} :
    d.find? name = some value ↔ (name, value) ∈ d.entries :=
  ⟨Assoc.mem_of_find?, Assoc.find?_of_mem d.nodup_names⟩

/-- **Dictionaries in which the same is found are the same.** -/
theorem ext_find? (h : ∀ name value, d.find? name = some value ↔ e.find? name = some value) :
    d = e := by
  have hnodup : ∀ c : Dictionary α, c.entries.Nodup := by
    intro c
    refine c.increasing.imp fun {a b} hlt heq => ?_
    exact String.lt_irrefl a.1 (heq ▸ hlt)
  have hperm : d.entries.Perm e.entries :=
    (List.perm_ext_iff_of_nodup (hnodup d) (hnodup e)).2 fun (name, value) =>
      find?_eq_some.symm.trans ((h name value).trans find?_eq_some)
  refine ext_entries (hperm.eq_of_pairwise (fun a b _ _ hab hba => ?_) d.increasing e.increasing)
  exact absurd (String.lt_trans hab hba) (String.lt_irrefl a.1)

/-! ## Many names at once -/

/-- **Binding many names**: each is found with its value, and under any other name what was found
before. -/
theorem find?_insertAll {l : Assoc α} (h : Assoc.Single l) (name : String) (value : α) :
    (d.insertAll l).find? name = some value ↔
      (name, value) ∈ l ∨ name ∉ Assoc.names l ∧ d.find? name = some value := by
  induction l generalizing d with
  | nil => simp [insertAll, Assoc.names]
  | cons entry rest ih =>
    obtain ⟨key, new⟩ := entry
    have hnames : name ∈ Assoc.names ((key, new) :: rest) ↔ name = key ∨ name ∈ Assoc.names rest :=
      List.mem_cons
    refine (ih (d := d.insert key new) h.tail).trans ?_
    rw [find?_insert, hnames, List.mem_cons, Prod.mk.injEq]
    by_cases hkey : key = name
    · subst hkey
      rw [if_pos rfl, Option.some.injEq]
      constructor
      · rintro (hrest | ⟨-, rfl⟩)
        · exact .inl (.inr hrest)
        · exact .inl (.inl ⟨rfl, rfl⟩)
      · rintro ((⟨-, rfl⟩ | hrest) | ⟨hnew, -⟩)
        · by_cases hagain : key ∈ Assoc.names rest
          · obtain ⟨⟨_, other⟩, hother, rfl⟩ := List.mem_map.1 hagain
            obtain rfl := h (List.mem_cons_self ..) (List.mem_cons_of_mem _ hother)
            exact .inl hother
          · exact .inr ⟨hagain, rfl⟩
        · exact .inl hrest
        · exact absurd (.inl rfl) hnew
    · simp [hkey, Ne.symm hkey]

/-- **The order in which names are bound makes no difference**, nor how often, if each has one
value. -/
theorem insertAll_congr {l l' : Assoc α} (hl : Assoc.Single l) (hsame : ∀ entry, entry ∈ l ↔ entry ∈ l') :
    d.insertAll l = d.insertAll l' := by
  have hl' : Assoc.Single l' := fun _ _ _ hvalue hother =>
    hl ((hsame _).2 hvalue) ((hsame _).2 hother)
  have hnames : ∀ name, name ∈ Assoc.names l ↔ name ∈ Assoc.names l' := fun name => by
    simp only [Assoc.names, List.mem_map, hsame]
  refine ext_find? fun name value => ?_
  rw [find?_insertAll hl, find?_insertAll hl', hsame, hnames]

/-- In a dictionary made of entries what is found is an entry. -/
theorem find?_empty_insertAll {l : Assoc α} (h : Assoc.Single l) (name : String) (value : α) :
    (empty.insertAll l).find? name = some value ↔ (name, value) ∈ l := by
  refine (find?_insertAll h name value).trans (or_iff_left ?_)
  rintro ⟨-, hempty⟩
  exact nomatch hempty

/-- **Unbinding many names** leaves what is found under the others. -/
theorem find?_foldl_erase (ns : List String) (name : String) (value : α) :
    (ns.foldl erase d).find? name = some value ↔ name ∉ ns ∧ d.find? name = some value := by
  induction ns generalizing d with
  | nil => simp
  | cons key rest ih =>
    rw [List.foldl_cons, ih, find?_erase, List.mem_cons]
    by_cases hkey : key = name
    · simp [hkey]
    · simp [hkey, Ne.symm hkey]

end Dictionary

end Stencil
