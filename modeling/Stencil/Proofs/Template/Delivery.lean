import Stencil.Proofs.Assoc
import Stencil.Proofs.Entry.Settled
import Stencil.Proofs.Faithful
import Stencil.Proofs.Html.Escaping
import Stencil.Render.Template

/-!
# Proofs/Template/Delivery — the ways to render a template agree

    items ──takeWhile──▸ the nodes before the first error ──append──▸ the parent
      └────mapM────────▸ all nodes, or the first error ─────join────▸ the HTML

Putting nodes into a parent and writing HTML are folds over the output of a rendering
(`Template.attachAll_eq`, `Html.ofNodes_eq_join`).  The output can be read off the items that are handed
out, so each way to render is a function of the items.
-/

namespace Stencil

/-! ## Read off the items -/

namespace Output

variable {N : Type} (a : Output N)

/-- The nodes of an output are those before the first error. -/
theorem nodes_of_items : (a.items.takeWhile Except.isOk).filterMap Except.toOption = a.nodes := by
  obtain ⟨nodes, error?⟩ := a
  induction nodes with
  | nil => cases error? <;> rfl
  | cons node rest ih => exact congrArg (node :: ·) ih

/-- The result of an output is all its items, or the first error. -/
theorem mapM_items : a.items.mapM id = a.result := by
  obtain ⟨nodes, error?⟩ := a
  induction nodes with
  | nil => cases error? <;> rfl
  | cons node rest ih =>
    have hcons : (items ⟨node :: rest, error?⟩).mapM id =
        ((items ⟨rest, error?⟩).mapM id).map (node :: ·) := List.mapM_cons
    rw [hcons, ih]
    cases error? <;> rfl

end Output

/-! ## Into a parent -/

/-- Nodes appended one after another stand behind the children of an element. -/
theorem Faithful.foldl_append {N : Type} [Host N] [Faithful N] {parent : N}
    (h : Host.text? parent = none) (nodes : List N) :
    nodes.foldl Host.append parent = withChildren parent (Host.children parent ++ nodes) := by
  induction nodes generalizing parent with
  | nil => rw [List.foldl_nil, List.append_nil, withChildren_children]
  | cons node rest ih =>
    have htext : Host.text? (Host.append parent node) = none := by
      rw [append_eq h, text?_withChildren, h]
    rw [List.foldl_cons, ih htext, append_eq h, children_withChildren h, withChildren_withChildren,
      List.append_assoc, List.singleton_append]

/-- **A parent receives the nodes of the output**, and the error is passed on. -/
theorem Template.attachAll_eq {N : Type} [Host N] (parent : N) (r : Rendering N) :
    attachAll parent r =
      (r.output.nodes.foldl Host.append parent, r.output.result.map fun _ => ()) := by
  induction r generalizing parent with
  | done => rfl
  | decision d rest ih => exact ih () parent
  | item outcome rest ih =>
    cases outcome with
    | error e => rfl
    | ok node =>
      have hnodes : (Output.single node ++ (rest ()).output).nodes = node :: (rest ()).output.nodes := rfl
      rw [attachAll, ih (), Rendering.output, hnodes, List.foldl_cons, Output.result_append]
      cases (rest ()).output.result <;> rfl

/-! ## All ways -/

/-- A name of a root mapping stands for the last value that it was given. -/
theorem Scope.top?_ofRoot_mapping (data : List (String × Value)) (name : String) :
    (ofRoot (.mapping data)).top? name = data.reverse.lookup name :=
  Assoc.find?_ofEntries data name

/-- **All ways to render agree.**  A template, an entry and a directive each hand out no item behind an
error.  Put into an element, the nodes before the first error go behind its children and nothing else of
it changes; as HTML the nodes are written one after another, if all of them are there.  In both the first
error is passed on.  Names and values make up a root in which the last value of a name counts. -/
theorem Template.delivery :
    (∀ (N : Type) [Host N] (scope : Scope) (template : Template N) (entry : Entry N)
        (f : Flow (Entry N)),
      ErrorLast (Step.items (template.render scope).steps) ∧
        ErrorLast (Step.items (entry.render scope).steps) ∧
        ErrorLast (Step.items (Entry.renderFlow scope f).steps)) ∧
      ∀ (template : Template Node) (scope : Scope),
        let items := Step.items (template.render scope).steps
        (∀ tag attributes children,
          template.renderInto (.mk (.element tag) attributes children) scope =
            (.mk (.element tag) attributes
                (children ++ (items.takeWhile Except.isOk).filterMap Except.toOption),
              (items.mapM id).map fun _ => ())) ∧
          template.renderHtml scope =
            ((items.mapM id).map fun nodes => String.join (nodes.map Node.html)) ∧
          ∀ data, template.renderWith data = template.renderHtml (.ofRoot (.mapping data)) ∧
            ∀ name, (Scope.ofRoot (.mapping data)).top? name = data.reverse.lookup name := by
  refine ⟨fun N _ scope template entry f => ?_, fun template scope => ?_⟩
  · exact ⟨(Rendering.settled_untilError _).errorLast, (Entry.settled_render scope entry).errorLast,
      (Entry.settled_renderFlow scope f).errorLast⟩
  · intro items
    have hitems : items = (template.render scope).output.items := Rendering.settled_untilError _
    refine ⟨fun tag attributes children => ?_, ?_, fun data => ⟨rfl, Scope.top?_ofRoot_mapping data⟩⟩
    · rw [hitems, Output.nodes_of_items, Output.mapM_items, renderInto, attachAll_eq,
        Faithful.foldl_append rfl]
      rfl
    · rw [hitems, Output.mapM_items, renderHtml, Rendering.outcome_collect]
      exact congrArg (Except.map · _) (funext Html.ofNodes_eq_join)

end Stencil
