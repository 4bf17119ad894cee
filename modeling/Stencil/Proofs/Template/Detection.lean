import Stencil.Proofs.Direct.Agreement
import Stencil.Proofs.Entry.Counting
import Stencil.Proofs.Entry.Evaluation
import Stencil.Proofs.Template.Census
import Stencil.Proofs.Template.Within

/-!
# Proofs/Template/Detection — a host that copies badly is found out

    skeleton  k children ──clone──▸ copy  0 or k + 1 children     k entries claim one each

The skeleton of an element has a child for each entry that is no directive, however deep the faults of a host
act while it is put together.  A copy that has lost or repeated children has another number, and no entry can
make up for that: neither the nodes of a directive nor the faults of other copies change the number of slots
that are left.  So an element with such an entry always comes to an error (`Template.refused_of_within`).
-/

namespace Stencil

/-! ## Faults of hosts -/

namespace Host

variable (N : Type) [Host N]

/-- Copies have no children. -/
def ClonesShallow : Prop := ∀ n : N, children (clone n) = []

/-- Copies repeat the last child. -/
def ClonesDoubling : Prop := ∀ n : N, children (clone n) = children n ++ (children n).getLast?.toList

/-- No child can be reached for changing. -/
def Freezes : Prop := ∀ (n : N) (position : Nat), focusChild? n position = none

variable {N}

/-- **A copy that has lost or repeated children has another number of them**, unless there were none. -/
theorem childCount_clone_ne (h : ClonesShallow N ∨ ClonesDoubling N) {n : N} (hsome : 0 < childCount n) :
    childCount (clone n) ≠ childCount n := by
  rcases h with h | h
  · rw [childCount, h]
    exact Nat.ne_of_lt hsome
  · have hne : children n ≠ [] := List.ne_nil_of_length_pos hsome
    rw [childCount, h, List.length_append, List.getLast?_eq_some_getLast hne]
    exact Nat.ne_of_gt (Nat.lt_succ_self _)

end Host

theorem SortedNode.clonesShallow : Host.ClonesShallow (SortedNode .shallow) := by
  rintro (content | ⟨tag, attributes, children⟩) <;> rfl

theorem SortedNode.clonesDoubling : Host.ClonesDoubling (SortedNode .doubling) := by
  rintro (content | ⟨tag, attributes, children⟩) <;> rfl

theorem SortedNode.freezes : Host.Freezes (SortedNode .frozen) := fun _ _ => rfl

/-! ## Elements that come to an error -/

namespace Entry

variable {N : Type} [Host N]

/-- An entry that comes to an error alone: entries do not fit, unless evaluating comes upon an error of the data
before. -/
def Refused (scope : Scope) (e : Entry N) : Prop :=
  ∃ error, Step.items (e.render scope).steps = [.error error] ∧
    ((∃ tag? misfit, error = .misaligned tag? misfit) ∨ ∃ p, error = .path p ∧ e.evaluate scope = .error p)

/-- An element that does not come out is refused. -/
theorem refused_of_ne_ok {scope : Scope} {skeleton : N} {attributes : List (String × Interpolation)}
    {children : List (Entry N)}
    (h : ∀ node, (fillElement scope attributes children (Host.clone skeleton)).outcome ≠ .ok node) :
    (element skeleton attributes children).Refused scope := by
  have hlike := errsLike_output scope (element skeleton attributes children)
  have hitems : Step.items ((element skeleton attributes children).render scope).steps = _ :=
    settled_render scope (element skeleton attributes children)
  change _ = ((element skeleton attributes children).output scope).items at hitems
  rw [output_element] at hlike hitems
  rcases houtcome : (fillElement scope attributes children (Host.clone skeleton)).outcome with error | node
  · rw [houtcome] at hlike hitems
    refine ⟨error, hitems, ?_⟩
    generalize hevaluate : evaluate scope (element skeleton attributes children) = v at hlike
    cases hlike with
    | path p => exact .inr ⟨p, rfl, rfl⟩
    | misaligned tag? misfit => exact .inl ⟨tag?, misfit, rfl⟩
  · exact absurd houtcome (h node)

/-- Where no child can be reached, entries with an element among them are never all filled in. -/
theorem fillSlots_ne_ok_of_freezes (hfrozen : Host.Freezes N) (scope : Scope) :
    ∀ (children : List (Entry N)) {filling filled : Filling N}, children.any isElement = true →
      (fillSlots scope children filling).outcome ≠ .ok filled
  | [], _, _, h, _ => Bool.false_ne_true h
  | .static node :: rest, filling, filled, h, hok => by
      rw [fillSlots] at hok
      split at hok
      · exact fillSlots_ne_ok_of_freezes hfrozen scope rest h hok
      · cases hok
  | .leaf text :: rest, filling, filled, h, hok => by
      rw [fillSlots] at hok
      split at hok
      · rw [Traced.outcome_bind] at hok
        obtain ⟨content, -, hrest⟩ := Except.ok_of_bind hok
        exact fillSlots_ne_ok_of_freezes hfrozen scope rest h hrest
      · cases hok
  | .element skeleton attributes children :: rest, filling, filled, _, hok => by
      rw [fillSlots, hfrozen] at hok
      split at hok <;> cases hok
  | .flow f :: rest, filling, filled, h, hok => by
      rw [fillSlots, Traced.outcome_bind] at hok
      obtain ⟨inserted, -, hrest⟩ := Except.ok_of_bind hok
      exact fillSlots_ne_ok_of_freezes hfrozen scope rest h hrest

end Entry

/-! ## Templates -/

/-- **A host that copies badly is found out.**  Wherever an element lies in a compiled template, it comes to an
error and never to a node: over a host whose copies lose their children or repeat the last one if one of its
entries is no directive, and over a host whose children cannot be reached if one of its entries is an
element. -/
theorem Template.refused_of_within {N : Type} [Host N] [Counted N] {options : Options} {nodes : List N}
    {template : Template N} (h : compile options nodes = .ok template) {skeleton : N}
    {attributes : List (String × Interpolation)} {children : List (Entry N)}
    (hwithin : (Entry.element skeleton attributes children).Within template.entries) (scope : Scope) :
    (Host.ClonesShallow N ∨ Host.ClonesDoubling N → (∃ e ∈ children, e.claims = true) →
      (Entry.element skeleton attributes children).Refused scope) ∧
    (Host.Freezes N → (∃ e ∈ children, e.isElement = true) →
      (Entry.element skeleton attributes children).Refused scope) := by
  obtain ⟨node, inside, role, hmade⟩ := made_of_within h hwithin
  obtain ⟨htext, hcount⟩ := Entry.childCount_skeleton (Options.text?_of_role_element role) hmade
  refine ⟨fun hfault hclaims => Entry.refused_of_ne_ok fun node hok => ?_,
    fun hfrozen helement => Entry.refused_of_ne_ok fun node hok => ?_⟩
  · have hcopy := Entry.childCount_of_fillElement ((Counted.text?_clone skeleton).trans htext) hok
    have hsome : 0 < Host.childCount skeleton := by
      rw [hcount]
      exact List.countP_pos_iff.2 hclaims
    exact Host.childCount_clone_ne hfault hsome (hcopy.trans hcount.symm)
  · rw [Entry.fillElement, Traced.outcome_bind] at hok
    obtain ⟨target, -, hok⟩ := Except.ok_of_bind hok
    rw [Traced.outcome_bind] at hok
    obtain ⟨filled, hfilled, -⟩ := Except.ok_of_bind hok
    exact Entry.fillSlots_ne_ok_of_freezes hfrozen scope children (List.any_eq_true.2 helement) hfilled

/-- An element with an element in it, over each of the three hosts: its data are there, and it is refused. -/
theorem Template.refused_of_within_list :
    let page (fault : Fault) : List (SortedNode fault) :=
      [.element "ul" .empty [.element "li" .empty [.text "\x7b\x7bx\x7d\x7d"]]]
    let scope : Scope := .ofRoot (.mapping [("x", .string "a")])
    let refuses (fault : Fault) : Prop :=
      ∃ (template : Template (SortedNode fault)) (e : Entry (SortedNode fault)),
        compile .default (page fault) = .ok template ∧ e.Within template.entries ∧
          e.evaluate scope = .ok () ∧ e.Refused scope
    refuses .shallow ∧ refuses .doubling ∧ refuses .frozen := by
  intro page scope refuses
  have hpage : ∀ fault, fault = .shallow ∨ fault = .doubling ∨ fault = .frozen →
      ∃ skeleton attributes inner others rest,
        compile .default (page fault) =
          .ok ⟨[.element skeleton attributes [.element inner others rest]]⟩ ∧
        (Entry.element skeleton attributes [.element inner others rest]).evaluate scope = .ok () := by
    rintro fault (rfl | rfl | rfl) <;> exact ⟨_, _, _, _, _, rfl, by rfl⟩
  refine ⟨?_, ?_, ?_⟩
  · obtain ⟨_, _, _, _, _, hcompile, hevaluate⟩ := hpage .shallow (.inl rfl)
    obtain ⟨hcopies, -⟩ := refused_of_within hcompile .here scope
    exact ⟨_, _, hcompile, .here, hevaluate, hcopies (.inl SortedNode.clonesShallow) ⟨_, .head _, rfl⟩⟩
  · obtain ⟨_, _, _, _, _, hcompile, hevaluate⟩ := hpage .doubling (.inr (.inl rfl))
    obtain ⟨hcopies, -⟩ := refused_of_within hcompile .here scope
    exact ⟨_, _, hcompile, .here, hevaluate, hcopies (.inr SortedNode.clonesDoubling) ⟨_, .head _, rfl⟩⟩
  · obtain ⟨_, _, _, _, _, hcompile, hevaluate⟩ := hpage .frozen (.inr (.inr rfl))
    obtain ⟨-, hreaches⟩ := refused_of_within hcompile .here scope
    exact ⟨_, _, hcompile, .here, hevaluate, hreaches SortedNode.freezes ⟨_, .head _, rfl⟩⟩

end Stencil
