import Stencil.Proofs.Output
import Stencil.Render.Entry

/-!
# Proofs/Entry/Output — what entries come to

One equation for each sort of entry (`output_static` … `output_switch`), each in terms of what the
bodies come to.  A chain of conditions and a switch are both a choice of the first branch whose guard
holds (`Output.choose`), and a loop puts the blocks of its rounds together (`Output.rounds`).
-/

namespace Stencil

/-- The body behind the first guard that holds, or else `fallback`; a guard that cannot be read ends
the search. -/
def Output.choose {N G E : Type} (holds : G → Except PathError Bool) (body : List E → Output N)
    (fallback : Output N) : List (Branch G E) → Output N
  | [] => fallback
  | branch :: rest =>
      given (holds branch.guard) fun found =>
        if found then body branch.body else choose holds body fallback rest

/-- Names with the values that their paths lead to. -/
def Scope.values (scope : Scope) (bindings : List (String × Path)) :
    Except PathError (List (String × Value)) :=
  bindings.mapM fun binding => (scope.lookup binding.2).map (binding.1, ·)

namespace Entry

variable {N : Type} [Host N] (scope : Scope)

/-- What an entry comes to. -/
def output (entry : Entry N) : Output N := (entry.render scope).output

/-- What entries come to, one after another. -/
def outputs (entries : List (Entry N)) : Output N := (renderEach scope entries).output

/-- What a body that may be absent comes to. -/
def outputOption (body? : Option (List (Entry N))) : Output N := (renderOption scope body?).output

@[simp] theorem outputs_nil : outputs scope ([] : List (Entry N)) = .nil := rfl

@[simp] theorem outputs_cons (entry : Entry N) (rest : List (Entry N)) :
    outputs scope (entry :: rest) = entry.output scope ++ outputs scope rest :=
  Rendering.output_append _ _

/-- The outputs of entries, one after another. -/
theorem outputs_eq_concat (entries : List (Entry N)) :
    outputs scope entries = .concat (entries.map (output scope)) := by
  induction entries with
  | nil => rfl
  | cons entry rest ih => rw [outputs_cons, ih, List.map_cons, Output.concat]

@[simp] theorem outputOption_none : outputOption scope (none : Option (List (Entry N))) = .nil := rfl

@[simp] theorem outputOption_some (body : List (Entry N)) :
    outputOption scope (some body) = outputs scope body :=
  Rendering.output_untilError _

/-- **What is handed out for entries is their output.** -/
theorem items_renderAll (entries : List (Entry N)) :
    Step.items (renderAll scope entries).steps = (outputs scope entries).items :=
  Rendering.items_untilError _

/-! ## Entry by entry -/

@[simp] theorem output_static (node : N) :
    (static node).output scope = .single (Host.clone node) := rfl

/-- **A text** comes to its content with the holes filled, or to the error of one. -/
theorem output_leaf (text : Interpolation) :
    (leaf text : Entry N).output scope =
      .given (text.render scope) fun content => .single (Host.ofText content) := by
  change Rendering.output (render scope (leaf text)) = _
  rw [render, Rendering.output_ofTraced, Traced.outcome_bind, Traced.outcome_ofPath]
  rcases text.render scope with e | content <;> rfl

/-- The element that a copy of a skeleton becomes. -/
def fillElement (attributes : List (String × Interpolation)) (children : List (Entry N)) (copy : N) :
    Traced N := do
  let target ← Filling.attributes scope attributes copy
  let filled ← fillSlots scope children (.start target)
  filled.finish

/-- **An element** comes to one node, or to the first error in it. -/
theorem output_element (skeleton : N) (attributes : List (String × Interpolation))
    (children : List (Entry N)) :
    (element skeleton attributes children).output scope =
      .ofResult ((fillElement scope attributes children (Host.clone skeleton)).outcome.map ([·])) := by
  change Rendering.output (render scope (element skeleton attributes children)) = _
  rw [render, Rendering.output_ofTraced, fillElement]

/-- An element in its slot becomes what it becomes on its own. -/
theorem fillSlots_element (skeleton : N) (attributes : List (String × Interpolation))
    (children rest : List (Entry N)) {filling : Filling N} {slot : N} {put : N → N}
    (hslot : filling.hasSlot = true)
    (hfocus : Host.focusChild? filling.target filling.position = some (slot, put)) :
    fillSlots scope (element skeleton attributes children :: rest) filling =
      fillElement scope attributes children slot >>= fun node =>
        fillSlots scope rest ⟨put node, filling.position + 1⟩ := by
  rw [fillSlots, if_pos hslot, hfocus, fillElement]
  simp only [bind_assoc]

theorem output_flow (f : Flow (Entry N)) : (flow f).output scope = (renderFlow scope f).output := by
  rw [output, render]

/-! ## Directives -/

/-- Branches come to the first of them whose condition holds. -/
theorem output_renderElseIfs (fallback : Unit → Rendering N) (n : Nat)
    (elseIfs : List (Branch Condition (Entry N))) :
    (renderElseIfs scope n elseIfs fallback).output =
      .choose (·.evaluate scope) (outputs scope) (fallback ()).output elseIfs := by
  induction elseIfs generalizing n with
  | nil => rw [renderElseIfs]; rfl
  | cons branch rest ih =>
    obtain ⟨condition, body⟩ := branch
    rw [renderElseIfs, Output.choose]
    rcases condition.evaluate scope with e | _ | _
    · rfl
    · exact ih (n + 1)
    · exact Rendering.output_untilError _

/-- Cases come to the first of them that is equal to the subject. -/
theorem output_renderCases (subject : Path) (fallback : Unit → Rendering N) (n : Nat)
    (cases : List (Branch Operand (Entry N))) :
    (renderCases scope subject n cases fallback).output =
      .choose (scope.equals subject) (outputs scope) (fallback ()).output cases := by
  induction cases generalizing n with
  | nil => rw [renderCases]; rfl
  | cons branch rest ih =>
    obtain ⟨operand, body⟩ := branch
    rw [renderCases, Output.choose]
    rcases scope.equals subject operand with e | _ | _
    · rfl
    · exact ih (n + 1)
    · exact Rendering.output_untilError _

/-- **A chain of conditions** comes to its first body whose condition holds. -/
theorem output_conditional (condition : Condition) (body : List (Entry N))
    (elseIfs : List (Branch Condition (Entry N))) (otherwise? : Option (List (Entry N))) :
    (flow (.conditional condition body elseIfs otherwise?)).output scope =
      .choose (·.evaluate scope) (outputs scope) (outputOption scope otherwise?)
        (⟨condition, body⟩ :: elseIfs) := by
  rw [output_flow, renderFlow, Output.choose]
  rcases condition.evaluate scope with e | _ | _
  · rfl
  · exact output_renderElseIfs scope _ 0 elseIfs
  · exact Rendering.output_untilError _

/-- **A switch** comes to its first body whose operand is equal to the subject. -/
theorem output_switch (subject : Path) (cases : List (Branch Operand (Entry N)))
    (otherwise? : Option (List (Entry N))) :
    (flow (.switch subject cases otherwise?)).output scope =
      .choose (scope.equals subject) (outputs scope) (outputOption scope otherwise?) cases := by
  rw [output_flow, renderFlow]
  exact output_renderCases scope subject _ 0 cases

/-- **A binding** comes to what its body does with the names bound. -/
theorem output_binding (bindings : List (String × Path)) (body : List (Entry N)) :
    (flow (.binding bindings body)).output scope =
      .given (scope.values bindings) fun values => outputs (scope.derive values) body := by
  rw [output_flow, renderFlow, Scope.values]
  split
  · next e h => rw [h]; rfl
  · next values h => rw [h]; exact Rendering.output_untilError _

/-- **A loop** comes to the blocks of its rounds, or to its other body if it has none. -/
theorem output_loop (loop : Loop) (body : List (Entry N)) (otherwise? : Option (List (Entry N))) :
    (flow (.loop loop body otherwise?)).output scope =
      .given (loop.scopes scope) fun scopes =>
        if scopes.isEmpty then outputOption scope otherwise?
        else .rounds loop.toTop (scopes.map fun round => outputs round body) := by
  rw [output_flow, renderFlow]
  rcases loop.scopes scope with e | scopes
  · rfl
  · change Rendering.output (if scopes.isEmpty then _ else _) = ite _ _ _
    rcases hempty : scopes.isEmpty with _ | _
    · rcases htop : loop.toTop with _ | _
      · change Rendering.output (Rendering.untilError _) = _
        rw [Rendering.output_untilError, Rendering.output_concat]
        exact congrArg Output.concat
          (List.map_congr_left fun round _ => Rendering.output_untilError _)
      · change Rendering.output (Rendering.ofTracedList _) = _
        rw [Rendering.output_ofTracedList, Traced.outcome_map, Traced.outcome_mapM]
        simp only [Rendering.outcome_collect, Rendering.output_untilError]
        change Output.ofResult (Except.map _
          (scopes.mapM (Output.result ∘ fun round => outputs round body))) = _
        rw [← List.mapM_map]
        rfl
    · rfl

/-- A loop comes to what its items and its bodies make of it. -/
theorem output_loop_items (scope : Scope) (loop : Loop) (body : List (Entry N))
    (otherwise? : Option (List (Entry N))) :
    (flow (.loop loop body otherwise?)).output scope =
      .given (loop.items scope) fun items =>
        if items.isEmpty then outputOption scope otherwise?
        else .rounds loop.toTop
          ((loop.scopesFrom scope 0 items).map fun round => outputs round body) := by
  rw [output_loop, Loop.scopes]
  cases loop.items scope with
  | error e => rfl
  | ok items => cases items <;> rfl

end Entry

end Stencil
