/-!
# Proofs/Except — when results are results and when they are errors

What is put together from several results is one only if they all are, and else it is the first error.
-/

namespace Except

variable {ε α β : Type}

/-- A sequence of two results is one only if both are. -/
theorem ok_of_bind {x : Except ε α} {f : α → Except ε β} {b : β}
    (h : x >>= f = .ok b) : ∃ a, x = .ok a ∧ f a = .ok b := by
  rcases x with e | a
  · cases h
  · exact ⟨a, rfl, h⟩

/-- A changed result is one only if it was one before. -/
theorem ok_of_map {x : Except ε α} {f : α → β} {b : β}
    (h : x.map f = .ok b) : ∃ a, x = .ok a ∧ f a = b := by
  rcases x with e | a
  · cases h
  · exact ⟨a, rfl, Except.ok.inj h⟩

theorem map_eq_error {x : Except ε α} {f : α → β} {e : ε} : x.map f = .error e ↔ x = .error e := by
  rcases x with e' | a
  · exact ⟨fun h => congrArg _ (Except.error.inj h), fun h => congrArg _ (Except.error.inj h)⟩
  · exact ⟨fun h => (by cases h), fun h => (by cases h)⟩

theorem exists_map_eq_ok {x : Except ε α} {f : α → β} : (∃ b, x.map f = .ok b) ↔ ∃ a, x = .ok a := by
  rcases x with e' | a
  · exact ⟨fun ⟨_, h⟩ => (by cases h), fun ⟨_, h⟩ => (by cases h)⟩
  · exact ⟨fun _ => ⟨a, rfl⟩, fun _ => ⟨f a, rfl⟩⟩

/-- The error of results one after another is that of the first that is one. -/
theorem mapM_eq_error {f : α → Except ε β} {e : ε} : ∀ {l : List α},
    l.mapM f = .error e ↔ ∃ before a after, l = before ++ a :: after ∧
      (∀ b ∈ before, ∃ result, f b = .ok result) ∧ f a = .error e
  | [] => by
    refine ⟨fun h => (by cases h), ?_⟩
    rintro ⟨before, a, after, hl, -⟩
    exact absurd hl.symm (by simp)
  | a :: rest => by
    rw [List.mapM_cons]
    rcases ha : f a with e' | result
    · constructor
      · intro h
        obtain rfl := Except.error.inj h
        exact ⟨[], a, rest, rfl, fun b hb => absurd hb List.not_mem_nil, ha⟩
      · rintro ⟨_ | ⟨b, before⟩, a', after, hl, hbefore, herror⟩
        · obtain rfl := (List.cons.inj hl).1
          exact congrArg Except.error (Except.error.inj (ha.symm.trans herror))
        · obtain rfl := (List.cons.inj hl).1
          obtain ⟨result, hresult⟩ := hbefore a (.head _)
          rw [ha] at hresult
          exact absurd hresult (by simp)
    · have hrest : (do let results ← rest.mapM f; pure (result :: results)) = Except.error e ↔
          rest.mapM f = .error e := by
        generalize rest.mapM f = results
        rcases results with e' | results
        · exact Iff.rfl
        · exact ⟨fun h => (by cases h), fun h => (by cases h)⟩
      refine hrest.trans (mapM_eq_error.trans ⟨?_, ?_⟩)
      · rintro ⟨before, a', after, rfl, hbefore, herror⟩
        refine ⟨a :: before, a', after, rfl, ?_, herror⟩
        exact List.forall_mem_cons.2 ⟨⟨result, ha⟩, hbefore⟩
      · rintro ⟨_ | ⟨b, before⟩, a', after, hl, hbefore, herror⟩
        · obtain rfl := (List.cons.inj hl).1
          rw [ha] at herror
          exact absurd herror (by simp)
        · obtain ⟨rfl, rfl⟩ := List.cons.inj hl
          exact ⟨before, a', after, rfl, fun b hb => hbefore b (.tail _ hb), herror⟩

/-! ## Results that are all true -/

section AllM

variable {f : α → Except ε Bool}

theorem allM_eq_ok_true {l : List α} : l.allM f = .ok true ↔ ∀ a ∈ l, f a = .ok true := by
  induction l with
  | nil => exact ⟨fun _ a ha => absurd ha List.not_mem_nil, fun _ => rfl⟩
  | cons a rest ih =>
    rw [List.allM_cons, List.forall_mem_cons, ← ih]
    rcases f a with e | _ | _
    · exact ⟨fun h => (by cases h), fun h => (by cases h.1)⟩
    · exact ⟨fun h => absurd (Except.ok.inj h) (by decide), fun h => absurd (Except.ok.inj h.1) (by decide)⟩
    · exact ⟨fun h => ⟨rfl, h⟩, fun h => h.2⟩

/-- What is true in front does not count. -/
theorem allM_append_of_true {front : List α} (h : ∀ a ∈ front, f a = .ok true) (rest : List α) :
    (front ++ rest).allM f = rest.allM f := by
  induction front with
  | nil => rfl
  | cons a others ih =>
    obtain ⟨ha, hothers⟩ := List.forall_mem_cons.1 h
    rw [List.cons_append, List.allM_cons, ha]
    exact ih hothers

/-- **The first result that is not true decides**, whatever is behind it. -/
theorem allM_cons_of_ne_true {a : α} (h : f a ≠ .ok true) (rest : List α) :
    (a :: rest).allM f = f a := by
  rw [List.allM_cons]
  rcases hresult : f a with e | _ | _
  · rfl
  · rfl
  · exact absurd hresult h

end AllM

end Except
