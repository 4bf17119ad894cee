import Mathlib.Data.List.Forall2
import Stencil.Proofs.Output

/-!
# Proofs/SameUpTo — results and outputs that are the same but for their errors

Two results are the same up to a relation of errors if they are the same value or related errors
(`Except.SameUpTo`), and two outputs if they have the same nodes and end alike (`Output.SameUpTo`).
Whatever results and outputs are put together by keeps this, so it is enough to look at the places where
errors arise.
-/

/-- Two results that are the same, or related errors. -/
inductive Except.SameUpTo {ε ε' α : Type} (E : ε → ε' → Prop) : Except ε α → Except ε' α → Prop
  | ok (a : α) : SameUpTo E (.ok a) (.ok a)
  | error {e : ε} {e' : ε'} (h : E e e') : SameUpTo E (.error e) (.error e')

namespace Except.SameUpTo

variable {ε ε' α β : Type} {E : ε → ε' → Prop} {r : Except ε α} {r' : Except ε' α}

theorem mono {D : ε → ε' → Prop} (hr : r.SameUpTo E r') (h : ∀ e e', E e e' → D e e') :
    r.SameUpTo D r' := by
  obtain a | he := hr
  · exact ok a
  · exact error (h _ _ he)

theorem bind {f : α → Except ε β} {f' : α → Except ε' β} (hr : r.SameUpTo E r')
    (hf : ∀ a, (f a).SameUpTo E (f' a)) : (r.bind f).SameUpTo E (r'.bind f') := by
  obtain a | he := hr
  · exact hf a
  · exact error he

theorem map (f : α → β) (hr : r.SameUpTo E r') : (r.map f).SameUpTo E (r'.map f) := by
  obtain a | he := hr
  · exact ok (f a)
  · exact error he

/-- Errors that are told otherwise are related as they are told. -/
theorem mapError {δ δ' : Type} {D : δ → δ' → Prop} {g : ε → δ} {g' : ε' → δ'} (hr : r.SameUpTo E r')
    (hg : ∀ e e', E e e' → D (g e) (g' e')) : (r.mapError g).SameUpTo D (r'.mapError g') := by
  obtain a | he := hr
  · exact ok a
  · exact error (hg _ _ he)

/-- Of many readings the first error counts, on both sides. -/
theorem mapM {f : α → Except ε β} {f' : α → Except ε' β} {as : List α}
    (hf : ∀ a ∈ as, (f a).SameUpTo E (f' a)) : (as.mapM f).SameUpTo E (as.mapM f') := by
  induction as with
  | nil => exact ok []
  | cons a rest ih =>
    rw [List.mapM_cons, List.mapM_cons]
    refine (hf a (.head _)).bind fun b => ?_
    exact (ih fun c hc => hf c (.tail _ hc)).bind fun bs => ok (b :: bs)

end Except.SameUpTo

namespace Stencil

/-- Two outputs with the same nodes that both end there, or with related errors. -/
inductive Output.SameUpTo {N : Type} (E : RenderError → RenderError → Prop) :
    Output N → Output N → Prop
  | complete (nodes : List N) : SameUpTo E ⟨nodes, none⟩ ⟨nodes, none⟩
  | broken (nodes : List N) {e e' : RenderError} (h : E e e') :
      SameUpTo E ⟨nodes, some e⟩ ⟨nodes, some e'⟩

namespace Output.SameUpTo

variable {N α : Type} {E : RenderError → RenderError → Prop} {a a' b b' : Output N}

theorem mono {D : RenderError → RenderError → Prop} (ha : a.SameUpTo E a')
    (h : ∀ e e', E e e' → D e e') : a.SameUpTo D a' := by
  obtain nodes | ⟨nodes, he⟩ := ha
  · exact complete nodes
  · exact broken nodes (h _ _ he)

/-- **Outputs behind outputs**: what comes behind an error does not count on either side. -/
theorem append (ha : a.SameUpTo E a') (hb : b.SameUpTo E b') : (a ++ b).SameUpTo E (a' ++ b') := by
  obtain nodes | ⟨nodes, he⟩ := ha
  · obtain others | ⟨others, he⟩ := hb
    · exact complete (nodes ++ others)
    · exact broken (nodes ++ others) he
  · exact broken nodes he

/-- Readings that are the same up to errors of paths, followed by outputs that are the same. -/
theorem given {P : PathError → PathError → Prop} {r r' : Except PathError α}
    {next next' : α → Output N} (hP : ∀ e e', P e e' → E (.path e) (.path e'))
    (hr : r.SameUpTo P r') (hnext : ∀ x, r = .ok x → (next x).SameUpTo E (next' x)) :
    (Output.given r next).SameUpTo E (Output.given r' next') := by
  obtain x | he := hr
  · exact hnext x rfl
  · exact broken [] (hP _ _ he)

/-- Whole results are the same as well, up to the error. -/
theorem result (ha : a.SameUpTo E a') : a.result.SameUpTo E a'.result := by
  obtain nodes | ⟨nodes, he⟩ := ha
  · exact .ok nodes
  · exact .error he

/-- A result that is handed out as a whole. -/
theorem ofResult {r r' : Except RenderError (List N)} (hr : r.SameUpTo E r') :
    (Output.ofResult r).SameUpTo E (Output.ofResult r') := by
  obtain nodes | he := hr
  · exact complete nodes
  · exact broken [] he

/-! ## Blocks one after another -/

variable {blocks blocks' : List (Output N)}

theorem concat (h : List.Forall₂ (SameUpTo E) blocks blocks') :
    (Output.concat blocks).SameUpTo E (Output.concat blocks') := by
  induction h with
  | nil => exact complete []
  | cons hblock _ ih => exact hblock.append ih

/-- The results of blocks, one after another. -/
theorem mapM_result (h : List.Forall₂ (SameUpTo E) blocks blocks') :
    (blocks.mapM Output.result).SameUpTo E (blocks'.mapM Output.result) := by
  induction h with
  | nil => exact .ok []
  | cons hblock _ ih =>
    rw [List.mapM_cons, List.mapM_cons]
    exact hblock.result.bind fun nodes => ih.bind fun others => .ok (nodes :: others)

/-- Rounds are the same up to the error, whichever end their nodes come out at. -/
theorem rounds (toTop : Bool) (h : List.Forall₂ (SameUpTo E) blocks blocks') :
    (Output.rounds toTop blocks).SameUpTo E (Output.rounds toTop blocks') := by
  rw [Output.rounds, Output.rounds]
  split
  · exact ofResult ((mapM_result h).map _)
  · exact concat h

/-! ## Item by item -/

/-- **What is handed out is the same**, but for an error at the end. -/
theorem items (h : a.SameUpTo E a') : List.Forall₂ (Except.SameUpTo E) a.items a'.items := by
  have hnodes : ∀ nodes : List N, List.Forall₂ (Except.SameUpTo E)
      (nodes.map Except.ok) (nodes.map Except.ok) := by
    intro nodes
    induction nodes with
    | nil => exact .nil
    | cons node rest ih => exact .cons (.ok node) ih
  obtain nodes | ⟨nodes, he⟩ := h
  · exact List.rel_append (hnodes nodes) .nil
  · exact List.rel_append (hnodes nodes) (.cons (.error he) .nil)

end Output.SameUpTo

end Stencil
