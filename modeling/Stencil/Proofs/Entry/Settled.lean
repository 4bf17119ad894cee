import Stencil.Proofs.Entry.Output

/-!
# Proofs/Entry/Settled — what is handed out is the output

An output says what a rendering comes to up to its first error.  Whatever is rendered on its own, be it an
entry or a directive, hands out just that (`Entry.settled_render`), however its parts are nested and
wherever among them an error arises; and in an output an error stands last (`Output.errorLast_items`).
-/

namespace Stencil

/-- Items of which an error, if there is one, is the last. -/
def ErrorLast {N : Type} (items : List (Except RenderError N)) : Prop :=
  ∀ before e after, items = before ++ .error e :: after → after = []

/-- **An error is the last item of an output.** -/
theorem Output.errorLast_items {N : Type} (a : Output N) : ErrorLast a.items := by
  obtain ⟨nodes, error?⟩ := a
  induction nodes with
  | nil =>
    intro before e after h
    have hlength := congrArg List.length h
    have hone : (items ⟨([] : List N), error?⟩).length ≤ 1 := by cases error? <;> simp [items]
    rw [List.length_append, List.length_cons] at hlength
    exact List.eq_nil_of_length_eq_zero (by omega)
  | cons node rest ih =>
    intro before e after h
    obtain _ | ⟨first, before⟩ := before
    · exact absurd (List.cons.inj h).1 (by simp)
    · exact ih before e after (List.cons.inj h).2

/-! ## What is handed out -/

namespace Rendering

variable {N : Type}

/-- A rendering that hands out the items of its output, and nothing behind an error. -/
def Settled (r : Rendering N) : Prop := Step.items r.steps = r.output.items

/-- A settled rendering ends with its error, if it has one. -/
theorem Settled.errorLast {r : Rendering N} (h : r.Settled) : ErrorLast (Step.items r.steps) := by
  rw [h]
  exact r.output.errorLast_items

theorem settled_single (outcome : Except RenderError N) : (single outcome).Settled := by
  cases outcome <;> rfl

/-- Stopping at the first error settles a rendering. -/
theorem settled_untilError (r : Rendering N) : r.untilError.Settled :=
  (items_untilError r).trans (congrArg Output.items (output_untilError r).symm)

/-- Decisions in front make no difference. -/
theorem settled_announce {r : Rendering N} (h : r.Settled) (decisions : List Decision) :
    (announce decisions r).Settled := by
  induction decisions with
  | nil => exact h
  | cons d rest ih => exact ih

theorem settled_ofTraced (t : Traced N) : (ofTraced t).Settled :=
  settled_announce (settled_single t.outcome) t.decisions

theorem settled_ofNodes (nodes : List N) : (ofNodes nodes).Settled := by
  induction nodes with
  | nil => rfl
  | cons node rest ih => exact congrArg (Except.ok node :: ·) ih

/-- Nodes that are ready, or the one error instead of them. -/
theorem settled_ofTracedList (t : Traced (List N)) : (ofTracedList t).Settled := by
  refine settled_announce ?_ t.decisions
  cases t.outcome with
  | error e => exact settled_single (.error e)
  | ok nodes => exact settled_ofNodes nodes

end Rendering

namespace Entry

open Rendering

variable {N : Type} [Host N] (scope : Scope)

theorem settled_renderOption (body? : Option (List (Entry N))) :
    (renderOption scope body?).Settled := by
  cases body? with
  | none => exact Eq.refl []
  | some body => exact settled_untilError _

/-- Branches are settled if what they fall back on is. -/
theorem settled_renderElseIfs {fallback : Unit → Rendering N} (h : (fallback ()).Settled)
    (elseIfs : List (Branch Condition (Entry N))) (branch : Nat) :
    (renderElseIfs scope branch elseIfs fallback).Settled := by
  induction elseIfs generalizing branch with
  | nil => rwa [renderElseIfs]
  | cons first rest ih =>
    obtain ⟨condition, body⟩ := first
    rw [renderElseIfs]
    split
    · exact settled_single _
    · exact settled_untilError (renderEach scope body)
    · exact ih (branch + 1)

/-- Cases are settled if what they fall back on is. -/
theorem settled_renderCases {fallback : Unit → Rendering N} (h : (fallback ()).Settled) (subject : Path)
    (cases : List (Branch Operand (Entry N))) (case : Nat) :
    (renderCases scope subject case cases fallback).Settled := by
  induction cases generalizing case with
  | nil => rwa [renderCases]
  | cons first rest ih =>
    obtain ⟨operand, body⟩ := first
    rw [renderCases]
    split
    · exact settled_single _
    · exact settled_untilError (renderEach scope body)
    · exact ih (case + 1)

/-- **A directive hands out its output.** -/
theorem settled_renderFlow (f : Flow (Entry N)) : (renderFlow scope f).Settled := by
  cases f with
  | conditional condition body elseIfs otherwise? =>
    rw [renderFlow]
    split
    · exact settled_single _
    · exact settled_untilError (renderEach scope body)
    · exact settled_renderElseIfs scope (settled_renderOption scope otherwise?) elseIfs 0
  | loop run body otherwise? =>
    rw [renderFlow]
    split
    · exact settled_single _
    · next scopes _ =>
      change Settled (if scopes.isEmpty then _ else if run.toTop then _ else _)
      split
      · exact settled_renderOption scope otherwise?
      · split
        · exact settled_ofTracedList _
        · exact settled_untilError _
  | binding bindings body =>
    rw [renderFlow]
    split
    · exact settled_single _
    · exact settled_untilError _
  | switch subject cases otherwise? =>
    rw [renderFlow]
    exact settled_renderCases scope (settled_renderOption scope otherwise?) subject cases 0

/-- The items of a directive, as the items of its output. -/
theorem items_renderFlow (f : Flow (Entry N)) :
    Step.items (renderFlow scope f).steps = ((flow f).output scope).items :=
  (settled_renderFlow scope f).trans (congrArg Output.items (output_flow scope f).symm)

/-- **An entry hands out its output.** -/
theorem settled_render (entry : Entry N) : (render scope entry).Settled := by
  cases entry with
  | static node =>
    rw [render]
    exact settled_single _
  | leaf text =>
    rw [render]
    exact settled_ofTraced _
  | element skeleton attributes children =>
    rw [render]
    exact settled_ofTraced _
  | flow f =>
    rw [render]
    exact settled_renderFlow scope f

end Entry

end Stencil
