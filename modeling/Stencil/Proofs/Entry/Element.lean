import Stencil.Proofs.Entry.Output
import Stencil.Proofs.Filling
import Stencil.Proofs.Template.Reading

/-!
# Proofs/Entry/Element — what an element comes to

An element is aligned if its skeleton's children are the slots of its entries.  Over a faithful host the
position then walks along them without ever missing one (`outcome_fillSlots`), so an aligned element
comes to its frame with all that its entries come to in it (`output_element_of_aligned`).  What an
element of the source is compiled to is aligned by construction, and it makes no difference whether it
collapses (`output_ofElement`).
-/

namespace Stencil

namespace Entry

variable {N : Type} [Host N]

/-- An element whose skeleton is an element with just the slots of its entries, or any other
entry. -/
def Aligned : Entry N → Prop
  | element skeleton _ children =>
      Host.text? skeleton = none ∧ Host.children skeleton = children.filterMap slot?
  | _ => True

variable [Faithful N]

open Faithful

/-! ## Walking along the slots -/

/-- What comes next stands behind what is finished. -/
theorem map_reached (frame : N) (done nodes : List N) (r : Except RenderError (List N)) :
    r.map (fun others => Filling.reached frame (done ++ nodes ++ others) []) =
      (r.map (nodes ++ ·)).map fun others => Filling.reached frame (done ++ others) [] := by
  rcases r with e | others
  · rfl
  · exact congrArg (fun l => Except.ok (Filling.reached frame l [])) (List.append_assoc ..)

/-- **Along its slots, every entry finds its own**: what is put in is what the entries come to, one
after another. -/
theorem outcome_fillSlots (scope : Scope) {frame : N} (h : Host.text? frame = none) :
    ∀ (children : List (Entry N)) (done : List N),
      (fillSlots scope children (.reached frame done (children.filterMap slot?))).outcome =
        (outputs scope children).result.map fun nodes => .reached frame (done ++ nodes) []
  | [], done => by
      rw [fillSlots, outputs_nil, Output.result_nil]
      exact congrArg (fun l => Except.ok (Filling.reached frame l [])) (List.append_nil done).symm
  | .flow f :: rest, done => by
      have hslots : (flow f :: rest).filterMap slot? = rest.filterMap slot? := rfl
      rw [fillSlots, Traced.outcome_bind, Filling.insertAll, Rendering.outcome_foldUntilError,
        outputs_cons, Output.result_append, output_flow, hslots]
      rcases (renderFlow scope f).output.result with e | nodes
      · rfl
      · refine (congrArg (fun x => (fillSlots scope rest x).outcome)
          (Filling.foldl_insert_reached h done _ nodes)).trans ?_
        rw [outcome_fillSlots scope h rest (done ++ nodes)]
        exact map_reached frame done nodes _
  | .static node :: rest, done => by
      have hslots : (static node :: rest).filterMap slot? =
          Host.clone node :: rest.filterMap slot? := rfl
      rw [fillSlots, hslots, if_pos (Filling.hasSlot_reached_cons h ..), Filling.keep_reached,
        outcome_fillSlots scope h rest, outputs_cons, output_static, Output.result_append,
        Output.result_single]
      exact map_reached frame done [Host.clone node] _
  | .leaf text :: rest, done => by
      have hslots : (leaf text :: rest).filterMap slot? =
          Host.ofText text.skeleton :: rest.filterMap (slot? (N := N)) := rfl
      rw [fillSlots, hslots, if_pos (Filling.hasSlot_reached_cons h ..), Traced.outcome_bind,
        Traced.outcome_ofPath, outputs_cons, output_leaf, Output.result_append]
      rcases text.render scope with e | content
      · rfl
      · change (fillSlots scope rest (Filling.replace _ _)).outcome = _
        rw [Filling.replace_reached h, outcome_fillSlots scope h rest]
        exact map_reached frame done [Host.ofText content] _
  | .element skeleton attributes children :: rest, done => by
      have hslots : (element skeleton attributes children :: rest).filterMap slot? =
          Host.clone skeleton :: rest.filterMap slot? := rfl
      have hfocus := Filling.focusChild?_reached h done (rest.filterMap slot?) (Host.clone skeleton)
      rw [hslots, fillSlots_element scope _ _ _ _ (Filling.hasSlot_reached_cons h ..) hfocus,
        Traced.outcome_bind, outputs_cons, output_element, Output.result_append]
      rcases (fillElement scope attributes children (Host.clone skeleton)).outcome with e | node
      · rfl
      · have hput := Filling.replace_reached h done (rest.filterMap slot?) (Host.clone skeleton) node
        refine (congrArg (fun x => (fillSlots scope rest x).outcome) hput).trans ?_
        rw [outcome_fillSlots scope h rest]
        exact map_reached frame done [node] _

/-- The slots of an aligned element are the children of its copy, whatever its attributes become. -/
theorem start_setAll_of_aligned {skeleton : N} {attributes : List (String × Interpolation)}
    {children : List (Entry N)} (h : (element skeleton attributes children).Aligned)
    (values : List (String × String)) :
    Filling.start (Filling.setAll skeleton values) =
        .reached (Filling.setAll skeleton values) [] (children.filterMap slot?) ∧
      Host.text? (Filling.setAll skeleton values) = none := by
  obtain ⟨htext, hslots⟩ := h
  refine ⟨?_, by rw [Filling.text?_setAll, htext]⟩
  rw [← hslots, ← Filling.start_withChildren, ← Filling.setAll_withChildren, withChildren_children]

/-- **An aligned element comes to its frame with all that its entries come to in it.** -/
theorem output_element_of_aligned (scope : Scope) {skeleton : N}
    {attributes : List (String × Interpolation)} {children : List (Entry N)}
    (h : (element skeleton attributes children).Aligned) :
    (element skeleton attributes children).output scope =
      .given (Filling.values scope attributes) fun values =>
        (outputs scope children).wrap (withChildren (Filling.setAll skeleton values)) := by
  rw [output_element, clone_eq, fillElement, Traced.outcome_bind, Filling.outcome_attributes]
  rcases Filling.values scope attributes with e | values
  · rfl
  · obtain ⟨hstart, hframe⟩ := start_setAll_of_aligned h values
    change Output.ofResult (Except.map _ (Traced.outcome (_ >>= _))) = Output.wrap _ _
    rw [Traced.outcome_bind, hstart, outcome_fillSlots scope hframe]
    rcases hresult : outputs scope children with ⟨nodes, _ | e⟩
    · change Output.ofResult (Except.map _ (Filling.finish (.reached _ nodes [])).outcome) = _
      rw [Filling.finish_reached hframe]
      rfl
    · rfl

/-- **Once the entries of an aligned element are in, the position is behind its last child.** -/
theorem position_of_aligned {scope : Scope} {skeleton target : N}
    {attributes : List (String × Interpolation)} {children : List (Entry N)} {filled : Filling N}
    (h : (element skeleton attributes children).Aligned)
    (htarget : (Filling.attributes scope attributes (Host.clone skeleton)).outcome = .ok target)
    (hfilled : (fillSlots scope children (.start target)).outcome = .ok filled) :
    filled.position = Host.childCount filled.target := by
  rw [clone_eq, Filling.outcome_attributes] at htarget
  rcases hvalues : Filling.values scope attributes with e | values
  · rw [hvalues] at htarget
    exact nomatch htarget
  · rw [hvalues] at htarget
    obtain rfl : Filling.setAll skeleton values = target := Except.ok.inj htarget
    obtain ⟨hstart, hframe⟩ := start_setAll_of_aligned h values
    rw [hstart, outcome_fillSlots scope hframe] at hfilled
    obtain ⟨nodes, -, rfl⟩ := Except.ok_of_map hfilled
    rw [Filling.childCount_reached hframe]
    rfl

/-! ## Elements of the source -/

variable {placeholder : Placeholder}

@[simp] theorem text?_bareSkeleton (node : N) :
    Host.text? (bareSkeleton placeholder node) = Host.text? node := by
  have hremove : ∀ (attributes : List (String × Interpolation)) (n : N),
      Host.text? (attributes.foldl (fun n entry => Host.removeAttribute n entry.1) n) =
        Host.text? n := by
    intro attributes
    induction attributes with
    | nil => intro n; rfl
    | cons entry rest ih => intro n; rw [List.foldl_cons, ih, text?_removeAttribute]
  rw [bareSkeleton, hremove, shell_eq, text?_withChildren]

/-- A bare skeleton has no children. -/
theorem withChildren_bareSkeleton (node : N) :
    withChildren (bareSkeleton placeholder node) [] = bareSkeleton placeholder node := by
  have hremove : ∀ (attributes : List (String × Interpolation)) (n : N),
      attributes.foldl (fun n entry => Host.removeAttribute n entry.1) (withChildren n []) =
        withChildren (attributes.foldl (fun n entry => Host.removeAttribute n entry.1) n) [] := by
    intro attributes
    induction attributes with
    | nil => intro n; rfl
    | cons entry rest ih => intro n; rw [List.foldl_cons, removeAttribute_withChildren, ih]; rfl
  rw [bareSkeleton, shell_eq, hremove, withChildren_withChildren]

/-- Attaching entries puts their slots behind the children. -/
theorem foldl_attach {frame : N} (h : Host.text? frame = none) (children : List (Entry N))
    (cs : List N) :
    children.foldl attach (withChildren frame cs) =
      withChildren frame (cs ++ children.filterMap slot?) := by
  induction children generalizing cs with
  | nil => rw [List.foldl_nil, List.filterMap_nil, List.append_nil]
  | cons entry rest ih =>
    rw [List.foldl_cons, attach]
    rcases hslot : entry.slot? with _ | slot
    · rw [List.filterMap_cons_none hslot]
      exact ih cs
    · have htext : Host.text? (withChildren frame cs) = none := by rw [text?_withChildren, h]
      rw [List.filterMap_cons_some hslot]
      change rest.foldl attach (Host.append _ slot) = _
      rw [append_eq htext, children_withChildren h, withChildren_withChildren, ih,
        List.append_assoc, List.singleton_append]

/-- The skeleton of an element is its frame with the slots in it. -/
theorem foldl_attach_bareSkeleton {node : N} (h : Host.text? node = none)
    (children : List (Entry N)) :
    children.foldl attach (bareSkeleton placeholder node) =
      withChildren (bareSkeleton placeholder node) (children.filterMap slot?) := by
  have hframe : Host.text? (bareSkeleton placeholder node) = none := by
    rw [text?_bareSkeleton, h]
  have hattach := foldl_attach hframe children []
  rwa [withChildren_bareSkeleton, List.nil_append] at hattach

omit [Faithful N] in
/-- Entries that never change come to their slots. -/
theorem outputs_of_all_isStatic (scope : Scope) {children : List (Entry N)}
    (h : children.all isStatic = true) :
    outputs scope children = ⟨children.filterMap slot?, none⟩ := by
  induction children with
  | nil => rfl
  | cons entry rest ih =>
    obtain ⟨hentry, hrest⟩ := Bool.and_eq_true_iff.1 (List.all_cons ▸ h)
    rcases entry with node | _ | _ | _
    · rw [outputs_cons, output_static, ih hrest]
      rfl
    all_goals exact absurd hentry Bool.false_ne_true

/-- **Elements are compiled to aligned entries.** -/
theorem aligned_ofElement {node : N} (h : Host.text? node = none) (children : List (Entry N)) :
    (ofElement placeholder node children).Aligned := by
  rw [ofElement, foldl_attach_bareSkeleton h]
  split
  · trivial
  · refine ⟨by rw [text?_withChildren, text?_bareSkeleton, h], ?_⟩
    exact children_withChildren (by rw [text?_bareSkeleton, h]) _

/-- **What an element of the source is compiled to comes to its frame**, with its attributes filled in
and with all that its children come to, whether it collapses or not. -/
theorem output_ofElement (scope : Scope) {node : N} (h : Host.text? node = none)
    (children : List (Entry N)) :
    (ofElement placeholder node children).output scope =
      .given (Filling.values scope (dynamicAttributes placeholder node)) fun values =>
        (outputs scope children).wrap
          (withChildren (Filling.setAll (bareSkeleton placeholder node) values)) := by
  have haligned : (ofElement placeholder node children).Aligned := aligned_ofElement h children
  rw [ofElement, foldl_attach_bareSkeleton h] at haligned ⊢
  split at haligned
  · next hstatic =>
    obtain ⟨hattributes, hchildren⟩ := hstatic
    rw [if_pos ⟨hattributes, hchildren⟩, List.isEmpty_iff.1 hattributes, output_static, clone_eq,
      outputs_of_all_isStatic scope hchildren]
    rfl
  · next hdynamic =>
    rw [if_neg hdynamic, output_element_of_aligned scope haligned]
    refine congrArg _ (funext fun values => congrArg (Output.wrap · _) (funext fun nodes => ?_))
    rw [Filling.setAll_withChildren, withChildren_withChildren]

end Entry

end Stencil
