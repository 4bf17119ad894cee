import Stencil.Render.Condition
import Stencil.Render.Filling
import Stencil.Render.Rounds
import Stencil.Template.Entry

/-!
# Render/Entry — what entries are rendered to

A static entry is rendered to a copy, a leaf to a text, a directive to what the body it selects is
rendered to.  An element is a copy of its skeleton, with its attributes filled in and its entries put
in their slots: a position walks along the children of the copy, each entry that is no directive
claims the child it stands at, and what a directive is rendered to goes in front of that child.

A list of entries is rendered one entry after another up to the first error.
-/

namespace Stencil

section Render

variable {N : Type} [Host N]

mutual
/-- **What an entry is rendered to.** -/
def Entry.render (scope : Scope) : Entry N → Rendering N
  | .static node => .single (.ok (Host.clone node))
  | .leaf text =>
      .ofTraced (do
        let content ← Traced.ofPath (text.render scope)
        .ok (Host.ofText content))
  | .element skeleton attributes children =>
      .ofTraced (do
        let target ← Filling.attributes scope attributes (Host.clone skeleton)
        let filled ← fillSlots scope children (.start target)
        filled.finish)
  | .flow f => renderFlow scope f
/-- What entries are rendered to, one after another. -/
def Entry.renderEach (scope : Scope) : List (Entry N) → Rendering N
  | [] => .done
  | entry :: rest => (render scope entry).append fun _ => renderEach scope rest
/-- Put the entries of an element in their slots. -/
def Entry.fillSlots (scope : Scope) : List (Entry N) → Filling N → Traced (Filling N)
  | [], filling => .ok filling
  | .flow f :: rest, filling => do
      let filling ← filling.insertAll (renderFlow scope f)
      fillSlots scope rest filling
  | .static _ :: rest, filling =>
      if filling.hasSlot then fillSlots scope rest filling.keep
      else .error filling.noSlotLeft
  | .leaf text :: rest, filling =>
      if filling.hasSlot then do
        let content ← Traced.ofPath (text.render scope)
        fillSlots scope rest (filling.replace (Host.ofText content))
      else .error filling.noSlotLeft
  | .element _ attributes children :: rest, filling =>
      if filling.hasSlot then
        match Host.focusChild? filling.target filling.position with
        | none => .error (.misaligned none (.slotVanished filling.position))
        | some (slot, put) => do
            let slot ← Filling.attributes scope attributes slot
            let filled ← fillSlots scope children (.start slot)
            let slot ← filled.finish
            fillSlots scope rest ⟨put slot, filling.position + 1⟩
      else .error filling.noSlotLeft
/-- What a directive is rendered to. -/
def Entry.renderFlow (scope : Scope) : Flow (Entry N) → Rendering N
  | .conditional condition body elseIfs otherwise? =>
      match condition.evaluate scope with
      | .error e => .fail (.path e)
      | .ok true =>
          .decision (.thenBranch condition.test) fun _ => (renderEach scope body).untilError
      | .ok false =>
          renderElseIfs scope 0 elseIfs fun _ =>
            .decision (.fellThrough condition.test otherwise?.isSome) fun _ =>
              renderOption scope otherwise?
  | .loop loop body otherwise? =>
      match loop.scopes scope with
      | .error e => .fail (.path e)
      | .ok scopes =>
          .decision (.rounds loop.iterable scopes.length loop.toTop) fun _ =>
            if scopes.isEmpty then renderOption scope otherwise?
            else if loop.toTop then
              .ofTracedList ((scopes.mapM fun scope =>
                (renderEach scope body).untilError.collect).map fun blocks =>
                  blocks.reverse.flatten)
            else
              (Rendering.concat (fun scope => (renderEach scope body).untilError) scopes).untilError
  | .binding bindings body =>
      match bindings.mapM fun binding => (scope.lookup binding.2).map (binding.1, ·) with
      | .error e => .fail (.path e)
      | .ok values => (renderEach (scope.derive values) body).untilError
  | .switch subject cases otherwise? =>
      renderCases scope subject 0 cases fun _ =>
        .decision (.noCase subject otherwise?.isSome) fun _ => renderOption scope otherwise?
/-- What the first `else-if` whose condition holds is rendered to, or else `fallback`. -/
def Entry.renderElseIfs (scope : Scope) (branch : Nat) :
    List (Branch Condition (Entry N)) → (fallback : Unit → Rendering N) → Rendering N
  | [], fallback => fallback ()
  | ⟨condition, body⟩ :: rest, fallback =>
      match condition.evaluate scope with
      | .error e => .fail (.path e)
      | .ok true =>
          .decision (.elseIfBranch condition.test branch) fun _ =>
            (renderEach scope body).untilError
      | .ok false => renderElseIfs scope (branch + 1) rest fallback
/-- What the first case that is equal to the subject is rendered to, or else `fallback`. -/
def Entry.renderCases (scope : Scope) (subject : Path) (case : Nat) :
    List (Branch Operand (Entry N)) → (fallback : Unit → Rendering N) → Rendering N
  | [], fallback => fallback ()
  | ⟨operand, body⟩ :: rest, fallback =>
      match scope.equals subject operand with
      | .error e => .fail (.path e)
      | .ok true =>
          .decision (.caseMatched subject case) fun _ => (renderEach scope body).untilError
      | .ok false => renderCases scope subject (case + 1) rest fallback
/-- What a body that may be absent is rendered to. -/
def Entry.renderOption (scope : Scope) : Option (List (Entry N)) → Rendering N
  | none => .done
  | some body => (renderEach scope body).untilError
end

/-- **What a list of entries is rendered to**: one after another, up to the first error. -/
def Entry.renderAll (scope : Scope) (entries : List (Entry N)) : Rendering N :=
  (Entry.renderEach scope entries).untilError

end Render

end Stencil
