import Stencil.Proofs.Template.Paths
import Stencil.Proofs.Template.Within

/-!
# Proofs/Template/Alignment — compiled templates are aligned everywhere

However deep an element lies in a compiled template, in other elements or in the bodies of directives,
its skeleton's children are just the slots of its entries (`Template.aligned_of_within`).  So nothing
but data can make a rendering fail (`Template.aligned_and_path_of_mem_items`).
-/

namespace Stencil

/-- **Every element of a compiled template is aligned**, wherever it lies. -/
theorem Template.aligned_of_within {N : Type} [Host N] [Faithful N] {options : Options}
    {nodes : List N} {template : Template N} (h : Template.compile options nodes = .ok template)
    {e : Entry N} (he : e.Within template.entries) : e.Aligned := by
  have hsource : Entry.OfSource options (Entry.Aligned (N := N)) :=
    ⟨fun _ => trivial, fun _ => trivial, fun _ => trivial, fun role children =>
      Entry.aligned_ofElement (Options.text?_of_role_element role) children⟩
  exact Template.of_within hsource h he

/-! ## Over ordinary nodes -/

/-- The node that stands in a skeleton for an entry that is no directive. -/
def Entry.standIn? : Entry Node → Option Node
  | .static node => some node
  | .leaf text => some (.text text.skeleton)
  | .element skeleton _ _ => some skeleton
  | .flow _ => none

theorem Entry.slot?_eq_standIn? : ∀ e : Entry Node, e.slot? = e.standIn?
  | .static _ => rfl
  | .leaf _ => rfl
  | .element _ _ _ => rfl
  | .flow _ => rfl

/-- **Compiled templates are aligned and fail on data alone.**  Every element in one, wherever it lies,
has an element as its skeleton, with just what stands for its entries as children; filling it in ends
behind the last of them.  So no rendering ends for want of alignment: its error is about a path that is
written in the template. -/
theorem Template.aligned_and_path_of_mem_items {options : Options} {nodes : List Node}
    {template : Template Node} (h : Template.compile options nodes = .ok template) :
    (∀ skeleton attributes children,
      (Entry.element skeleton attributes children).Within template.entries →
        (∃ tag, skeleton.label = .element tag) ∧
          skeleton.children = children.filterMap Entry.standIn? ∧
          ∀ scope target filled,
            (Filling.attributes scope attributes (Host.clone skeleton)).outcome = .ok target →
            (Entry.fillSlots scope children (.start target)).outcome = .ok filled →
              filled.position = Host.childCount filled.target) ∧
      ∀ scope e, .error e ∈ Step.items (template.render scope).steps →
        ∃ p : PathError, e = .path p ∧ p.path ∈ Tree.allPaths options (nodes.map Node.tree) := by
  refine ⟨fun skeleton attributes children hwithin => ?_, fun scope e he => ?_⟩
  · have haligned := Template.aligned_of_within h hwithin
    refine ⟨?_, ?_, fun scope target filled => Entry.position_of_aligned haligned⟩
    · obtain ⟨_ | tag, _, _⟩ := skeleton
      · exact nomatch haligned.1
      · exact ⟨tag, rfl⟩
    · rw [← funext Entry.slot?_eq_standIn?]
      exact haligned.2
  · exact Template.path_of_mem_items h scope he

/-- A list with a comment, a loop and two texts.  Its skeleton has a slot for each of the texts and none for the
loop, and filled in with whatever data it ends behind the last child; only its four paths can fail. -/
theorem Template.aligned_and_path_of_mem_items_list :
    let page : List Node :=
      [.element "ul" [("class", "\x7b\x7bc\x7d\x7d")]
        [.text "a", .element "gb-comment" [] [.text "\x7b\x7bhidden\x7d\x7d"],
          .element "gb-for" [("in", "xs"), ("as", "x")]
            [.element "li" [] [.text "\x7b\x7bx\x7d\x7d"]],
          .text "\x7b\x7b y.z \x7d\x7d"]]
    let skeleton : Node := .element "ul" [] [.text "a", .text ""]
    ∃ template attributes children, Template.compile .default page = .ok template ∧
      (Entry.element skeleton attributes children).Within template.entries ∧ children.length = 3 ∧
      skeleton.children = children.filterMap Entry.standIn? ∧
      (∀ scope target filled,
        (Filling.attributes scope attributes (Host.clone skeleton)).outcome = .ok target →
          (Entry.fillSlots scope children (.start target)).outcome = .ok filled →
            filled.position = Host.childCount filled.target) ∧
      ∀ scope e, .error e ∈ Step.items (template.render scope).steps →
        ∃ p : PathError, e = .path p ∧ p.path ∈ [⟨"c"⟩, ⟨"xs"⟩, ⟨"x"⟩, (⟨" y.z "⟩ : Path)] := by
  intro page skeleton
  have hpaths : Tree.allPaths .default (page.map Node.tree) =
      [⟨"c"⟩, ⟨"xs"⟩, ⟨"x"⟩, (⟨" y.z "⟩ : Path)] := by decide +kernel
  have hcompile : ∃ made attributes children, Template.compile Options.default page =
      .ok ⟨[.element made attributes children]⟩ := ⟨_, _, _, rfl⟩
  have hshape : (Template.compile .default page).toOption.map (fun template =>
      (template.entries.filterMap Entry.standIn?,
        template.entries.flatMap fun e => e.parts.map List.length)) = some ([skeleton], [3]) := by
    decide +kernel
  obtain ⟨made, attributes, children, hcompile⟩ := hcompile
  rw [hcompile] at hshape
  obtain ⟨hmade, hlength⟩ := Prod.mk.inj (Option.some.inj hshape)
  obtain rfl : made = skeleton := List.singleton_inj.1 hmade
  obtain ⟨haligned, hfails⟩ := Template.aligned_and_path_of_mem_items hcompile
  obtain ⟨-, hslots, hfilled⟩ := haligned skeleton attributes children .here
  exact ⟨_, attributes, children, hcompile, .here, List.singleton_inj.1 hlength, hslots, hfilled,
    hpaths ▸ hfails⟩

end Stencil
