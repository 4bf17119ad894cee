import Mathlib.Data.List.Infix
import Stencil.Proofs.Direct.Agreement
import Stencil.Proofs.Node.Sound
import Stencil.Proofs.Template.Twins

/-!
# Proofs/Template/Marker — the marker of directives is only a name

    nodes ──compile, marker p──▸ entries
      │                             ∥
      p ↦ q                         ∥
      ▾                             ∥
    nodes ──compile, marker q──▸ entries

Where one marker is exchanged for another in every tag, a directive keeps its name and everything else keeps
its tag; so nodes become twins (`Node.related_retagged`), which are compiled to the same entries.  Two tags
must not be confused: one without the old marker must not begin with the new one, and none with the old marker
may stand below a text, for a text goes into the template as it is (`Template.compile_retagged_text`).
-/

namespace Stencil

/-! ## Tags with a marker -/

/-- A tag that begins with a marker. -/
def Marked (marker tag : String) : Prop := marker.toList <+: tag.toList

instance (marker tag : String) : Decidable (Marked marker tag) :=
  inferInstanceAs (Decidable (marker.toList <+: tag.toList))

/-- A tag with another marker in place of its own. -/
def retag (marker marker' tag : String) : String :=
  match marker.toList.isPrefixOf? tag.toList with
  | some name => marker' ++ String.ofList name
  | none => tag

section Tags

variable {marker marker' tag : String}

theorem isPrefixOf?_eq_none (h : ¬ Marked marker tag) : marker.toList.isPrefixOf? tag.toList = none := by
  rcases hname : marker.toList.isPrefixOf? tag.toList with _ | name
  · rfl
  · exact absurd ⟨name, List.isPrefixOf?_eq_some_iff_append_eq.1 hname⟩ h

theorem retag_of_not_marked (h : ¬ Marked marker tag) : retag marker marker' tag = tag := by
  rw [retag, isPrefixOf?_eq_none h]

theorem directiveName?_of_not_marked (h : ¬ Marked marker tag) (placeholder : Placeholder) :
    (Options.mk marker placeholder).directiveName? tag = none := by
  rw [Options.directiveName?, isPrefixOf?_eq_none h]
  exact ite_self none

theorem Marked.eq_append (h : Marked marker tag) : ∃ name, tag = marker ++ String.ofList name := by
  obtain ⟨name, hname⟩ := h
  exact ⟨name, by rw [← String.toList_inj, String.toList_append, String.toList_ofList, hname]⟩

theorem retag_append (name : List Char) :
    retag marker marker' (marker ++ String.ofList name) = marker' ++ String.ofList name := by
  have hname : marker.toList.isPrefixOf? (marker ++ String.ofList name).toList = some name := by
    rw [List.isPrefixOf?_eq_some_iff_append_eq, String.toList_append, String.toList_ofList]
  rw [retag, hname]

/-- What follows a marker names the directive. -/
theorem directiveName?_append (h : marker ≠ "") (name : List Char) (placeholder : Placeholder) :
    (Options.mk marker placeholder).directiveName? (marker ++ String.ofList name) =
      some (String.ofList name) := by
  have hname : marker.toList.isPrefixOf? (marker ++ String.ofList name).toList = some name := by
    rw [List.isPrefixOf?_eq_some_iff_append_eq, String.toList_append, String.toList_ofList]
  rw [Options.directiveName?, if_neg h, hname]
  rfl

/-- **A directive keeps its name** under another marker, and what is no directive becomes none. -/
theorem directiveName?_retag (hmarker : marker ≠ "") (hmarker' : marker' ≠ "")
    (hclash : Marked marker' tag → Marked marker tag) (placeholder : Placeholder) :
    (Options.mk marker' placeholder).directiveName? (retag marker marker' tag) =
      (Options.mk marker placeholder).directiveName? tag := by
  by_cases hmarked : Marked marker tag
  · obtain ⟨name, rfl⟩ := hmarked.eq_append
    rw [retag_append, directiveName?_append hmarker', directiveName?_append hmarker]
  · rw [retag_of_not_marked hmarked, directiveName?_of_not_marked hmarked,
      directiveName?_of_not_marked (mt hclash hmarked)]

/-- The tag that texts go by has no marker but one that begins with its first character. -/
theorem not_marked_text (hmarker : marker ≠ "") (h : ¬ Marked "#" marker) : ¬ Marked marker "#text" := by
  intro hmarked
  rcases hchars : marker.toList with _ | ⟨c, rest⟩
  · exact hmarker (String.toList_eq_nil_iff.1 hchars)
  · rw [Marked, hchars] at hmarked
    obtain rfl : c = '#' := (List.cons_prefix_cons.1 hmarked).1
    exact h (by rw [Marked, hchars]; exact ⟨rest, rfl⟩)

end Tags

/-! ## Nodes with other tags -/

namespace Node

mutual
/-- A node with another tag in place of every tag, in it and everywhere below it. -/
def retagged (f : String → String) : Node → Node
  | mk (.text content) attributes children => mk (.text content) attributes (allRetagged f children)
  | mk (.element tag) attributes children => mk (.element (f tag)) attributes (allRetagged f children)
/-- Some nodes with another tag in place of every tag. -/
def allRetagged (f : String → String) : List Node → List Node
  | [] => []
  | n :: rest => retagged f n :: allRetagged f rest
end

mutual
/-- The tags in and below a node. -/
def tags : Node → List String
  | mk (.text _) _ children => allTags children
  | mk (.element tag) _ children => tag :: allTags children
/-- The tags in and below some nodes. -/
def allTags : List Node → List String
  | [] => []
  | n :: rest => tags n ++ allTags rest
end

mutual
/-- The tags below texts, in and below a node. -/
def tagsBelowTexts : Node → List String
  | mk (.text _) _ children => allTags children
  | mk (.element _) _ children => allTagsBelowTexts children
/-- The tags below texts, in and below some nodes. -/
def allTagsBelowTexts : List Node → List String
  | [] => []
  | n :: rest => tagsBelowTexts n ++ allTagsBelowTexts rest
end

mutual

theorem retagged_eq_self {f : String → String} :
    ∀ n : Node, (∀ tag ∈ n.tags, f tag = tag) → n.retagged f = n
  | mk (.text content) attributes children, h => by
      rw [tags] at h
      rw [retagged, allRetagged_eq_self children h]
  | mk (.element tag) attributes children, h => by
      rw [tags, List.forall_mem_cons] at h
      rw [retagged, h.1, allRetagged_eq_self children h.2]

/-- Nodes stay as they are if their tags do. -/
theorem allRetagged_eq_self {f : String → String} :
    ∀ nodes : List Node, (∀ tag ∈ allTags nodes, f tag = tag) → allRetagged f nodes = nodes
  | [], _ => by rw [allRetagged]
  | n :: rest, h => by
      rw [allTags, List.forall_mem_append] at h
      rw [allRetagged, retagged_eq_self n h.1, allRetagged_eq_self rest h.2]

end

/-! ## Nodes with another marker -/

section Marker

variable {marker marker' : String} (hmarker : marker ≠ "") (hmarker' : marker' ≠ "")
include hmarker hmarker'

/-- A node with another marker has the same role, but for its tag. -/
theorem role_retagged (placeholder : Placeholder) {n : Node}
    (hclash : ∀ tag ∈ n.tags, Marked marker' tag → Marked marker tag) :
    (Options.mk marker' placeholder).role (n.retagged (retag marker marker')) =
      ((Options.mk marker placeholder).role n).rename (retag marker marker') := by
  obtain ⟨content | tag, attributes, children⟩ := n
  · rw [retagged]
    rfl
  · rw [retagged]
    have hname :=
      directiveName?_retag hmarker hmarker' (hclash tag (by rw [tags]; exact .head _)) placeholder
    simp only [Options.role, Host.tag?, Host.text?, tag?, text?, label, Option.bind_some, hname]
    rcases (Options.mk marker placeholder).directiveName? tag with _ | name <;> rfl

omit hmarker' in
/-- An element that is no directive has no marker. -/
theorem not_marked_of_role {placeholder : Placeholder} {n : Node} {tag : String}
    (htag : n.tag? = some tag) (h : (Options.mk marker placeholder).role n = .element) : ¬ Marked marker tag := by
  intro hmarked
  obtain ⟨name, rfl⟩ := hmarked.eq_append
  simp only [Options.role, Host.tag?, htag, Option.bind_some, directiveName?_append hmarker] at h
  exact Role.noConfusion h

/-- **A node with another marker is a twin of the node.** -/
theorem twin_retagged (placeholder : Placeholder) {n : Node}
    (hclash : ∀ tag ∈ n.tags, Marked marker' tag → Marked marker tag)
    (hbelow : ∀ tag ∈ n.tagsBelowTexts, ¬ Marked marker tag) :
    Host.Twin ⟨marker, placeholder⟩ ⟨marker', placeholder⟩ (retag marker marker') n
      (n.retagged (retag marker marker')) := by
  have hrole := role_retagged hmarker hmarker' placeholder hclash
  obtain ⟨content | tag, attributes, children⟩ := n
  · have hsame : allRetagged (retag marker marker') children = children :=
      allRetagged_eq_self children fun tag htag =>
        retag_of_not_marked (hbelow tag (by rw [tagsBelowTexts]; exact htag))
    rw [retagged, hsame] at hrole ⊢
    exact ⟨hrole, rfl, fun _ => rfl, fun _ => rfl, fun _ => rfl, fun h => Role.noConfusion h⟩
  · rw [retagged] at hrole ⊢
    refine ⟨hrole, rfl, fun _ => rfl, fun {content} h => ?_, fun h => ?_, fun _ => rfl⟩
    · exact (Option.some_ne_none content (Options.text?_of_role_text h).symm).elim
    · rw [retag_of_not_marked (not_marked_of_role hmarker rfl h)]
      rfl

end Marker

mutual

theorem related_retagged {marker marker' : String} (hmarker : marker ≠ "") (hmarker' : marker' ≠ "")
    (placeholder : Placeholder) : ∀ n : Node,
    (∀ tag ∈ n.tags, Marked marker' tag → Marked marker tag) →
    (∀ tag ∈ n.tagsBelowTexts, ¬ Marked marker tag) →
    Tree.Related ⟨marker, placeholder⟩
      (Host.Twin ⟨marker, placeholder⟩ ⟨marker', placeholder⟩ (retag marker marker')) n.tree
      (n.retagged (retag marker marker')).tree
  | mk (.text content) attributes children, hclash, hbelow => by
      have htwin := twin_retagged hmarker hmarker' placeholder hclash hbelow
      rw [retagged] at htwin ⊢
      rw [tree, tree]
      exact .mk htwin fun hopens => absurd hopens Bool.false_ne_true
  | mk (.element tag) attributes children, hclash, hbelow => by
      have htwin := twin_retagged hmarker hmarker' placeholder hclash hbelow
      rw [tags, List.forall_mem_cons] at hclash
      rw [tagsBelowTexts] at hbelow
      rw [retagged] at htwin ⊢
      rw [tree, tree]
      exact .mk htwin fun _ => allRelated_retagged hmarker hmarker' placeholder children hclash.2 hbelow

/-- Nodes with another marker are twins, one by one. -/
theorem allRelated_retagged {marker marker' : String} (hmarker : marker ≠ "") (hmarker' : marker' ≠ "")
    (placeholder : Placeholder) : ∀ nodes : List Node,
    (∀ tag ∈ allTags nodes, Marked marker' tag → Marked marker tag) →
    (∀ tag ∈ allTagsBelowTexts nodes, ¬ Marked marker tag) →
    Tree.AllRelated ⟨marker, placeholder⟩
      (Host.Twin ⟨marker, placeholder⟩ ⟨marker', placeholder⟩ (retag marker marker')) (trees nodes)
      (trees (allRetagged (retag marker marker') nodes))
  | [], _, _ => by
      rw [allRetagged, trees]
      exact .nil
  | n :: rest, hclash, hbelow => by
      rw [allTags, List.forall_mem_append] at hclash
      rw [allTagsBelowTexts, List.forall_mem_append] at hbelow
      rw [allRetagged, trees, trees]
      exact .cons (related_retagged hmarker hmarker' placeholder n hclash.1 hbelow.1)
        (allRelated_retagged hmarker hmarker' placeholder rest hclash.2 hbelow.2)

end

end Node

/-! ## Templates -/

/-- **The marker of directives is only a name.**  With another marker in place of the one in every tag, a
template is compiled to the same entries, or refused with the same error about the tag in its new form.
Beforehand no tag may begin with the new marker but not with the old one, and none below a text with the old
one. -/
theorem Template.compile_retagged {marker marker' : String} (placeholder : Placeholder)
    {nodes : List Node} (hmarker : marker ≠ "") (hmarker' : marker' ≠ "") (htext : ¬ Marked "#" marker)
    (hclash : ∀ tag ∈ Node.allTags nodes, ¬ Marked marker tag → ¬ Marked marker' tag)
    (hbelow : ∀ tag ∈ Node.allTagsBelowTexts nodes, ¬ Marked marker tag) :
    SameButTag (retag marker marker') (compile ⟨marker, placeholder⟩ nodes)
      (compile ⟨marker', placeholder⟩ (Node.allRetagged (retag marker marker') nodes)) := by
  have renames : Source.Renaming ⟨marker, placeholder⟩ ⟨marker', placeholder⟩ (retag marker marker') :=
    ⟨rfl, retag_of_not_marked (not_marked_text hmarker htext)⟩
  have htwins := Source.readSiblings_twins renames .closed
    (Node.allRelated_retagged hmarker hmarker' placeholder nodes
      (fun tag htag => not_imp_not.1 (hclash tag htag)) hbelow)
  rw [Node.trees_eq_map, Node.trees_eq_map] at htwins
  exact compile_sameButTag renames htwins

/-- A marker that begins with another one: the directives are told apart, and the error about one that does
not exist names it by its new tag. -/
theorem Template.compile_retagged_longer :
    let nodes : List Node :=
      [.element "p" [] [.element "gb-if" [("test", "a")] [.text "b"]], .element "gb-x-if" [] []]
    let nodes' : List Node :=
      [.element "p" [] [.element "gb-x-if" [("test", "a")] [.text "b"]], .element "gb-x-x-if" [] []]
    SameButTag (retag "gb-" "gb-x-") (compile ⟨"gb-", .default⟩ nodes)
      (compile ⟨"gb-x-", .default⟩ nodes') := by
  intro nodes nodes'
  have hnodes : Node.allRetagged (retag "gb-" "gb-x-") nodes = nodes' := by decide +kernel
  rw [← hnodes]
  exact compile_retagged .default (by decide) (by decide) (by decide) (by decide +kernel) (by decide +kernel)

/-- A tag below a text keeps its marker in the template, as the text goes into it as it is. -/
theorem Template.compile_retagged_text :
    let nodes : List Node := [.element "#text" [] [.element "gb-if" [] []]]
    (∀ tag ∈ Node.allTags nodes, ¬ Marked "gb-" tag → ¬ Marked "t-" tag) ∧
      ¬ Marked "#" "gb-" ∧ ¬ Marked "#" "t-" ∧
      ¬ SameButTag (retag "gb-" "t-") (compile ⟨"gb-", .default⟩ nodes)
        (compile ⟨"t-", .default⟩ (Node.allRetagged (retag "gb-" "t-") nodes)) := by
  intro nodes
  refine ⟨by decide, by decide, by decide, fun h => ?_⟩
  have hgb : compile ⟨"gb-", .default⟩ nodes =
      .ok ⟨[.static (.mk (.text "") [] [.element "gb-if" [] []])]⟩ := by
    rfl
  have ht : compile ⟨"t-", .default⟩ (Node.allRetagged (retag "gb-" "t-") nodes) =
      .ok ⟨[.static (.mk (.text "") [] [.element "t-if" [] []])]⟩ := by
    rfl
  rw [hgb, ht] at h
  obtain heq | _ := h
  have hnode := Entry.static.inj (List.cons.inj (Template.mk.inj heq)).1
  exact absurd hnode (by decide)

end Stencil
