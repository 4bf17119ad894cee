import Stencil.Proofs.Direct.Agreement
import Stencil.Proofs.Node.Sound
import Stencil.Proofs.Template.Census
import Stencil.Proofs.Template.Twins

/-!
# Proofs/Template/Comments — comments are invisible

    nodes ──withoutComments──▸ nodes'
      └────compile──▸ entries ◂──compile────┘

Where comments are taken out of a tree, with all that is in them and wherever they stand, what is left is
read as before (`Source.readSiblings_withoutComments`).  Taking them out of ordinary nodes leaves twins of
the nodes (`Node.twin_withoutComments`), and so the same entries, the same error and the same count.
-/

namespace Stencil

/-- Whether a node is a comment. -/
def Role.isComment : Role → Bool
  | .directive _ (some .comment) => true
  | _ => false

/-- A comment is a directive, whatever its tag. -/
theorem Role.eq_of_isComment {role : Role} (h : role.isComment = true) :
    ∃ tag, role = .directive tag (some .comment) := by
  rcases role with content | _ | ⟨tag, _ | keyword⟩
  case directive.some =>
    cases keyword with
    | comment => exact ⟨tag, rfl⟩
    | _ => cases h
  all_goals cases h

/-! ## Trees -/

section Trees

variable {N : Type} [Host N] (options : Options)

namespace Tree

mutual
/-- A tree without the comments below its top. -/
def withoutComments : Tree N → Tree N
  | mk node below => mk node (allWithoutComments below)
/-- Some trees without the comments among and below them. -/
def allWithoutComments : List (Tree N) → List (Tree N)
  | [] => []
  | t :: rest =>
      if (options.role t.node).isComment then allWithoutComments rest
      else withoutComments t :: allWithoutComments rest
end

/-- The top of a tree stays. -/
theorem node_withoutComments (t : Tree N) : (withoutComments options t).node = t.node := by
  obtain ⟨node, below⟩ := t
  rw [withoutComments]
  rfl

end Tree

namespace Source

variable {options}

/-- A comment is passed over among siblings. -/
theorem readSiblings_comment {t : Tree N} (h : (options.role t.node).isComment = true)
    (pairing : Pairing) (rest : List (Tree N)) :
    readSiblings options pairing (t :: rest) = readSiblings options pairing rest := by
  obtain ⟨tag, role⟩ := Role.eq_of_isComment h
  rw [readSiblings, role]

/-- A comment is passed over among cases. -/
theorem readCases_comment {t : Tree N} (h : (options.role t.node).isComment = true)
    (hasDefault : Bool) (rest : List (Tree N)) :
    readCases options hasDefault (t :: rest) = readCases options hasDefault rest := by
  obtain ⟨tag, role⟩ := Role.eq_of_isComment h
  rw [readCases, role]

mutual

theorem readBody_withoutComments : ∀ t : Tree N,
    readBody options (t.withoutComments options) = readBody options t
  | .mk node below => by
      rw [Tree.withoutComments, readBody, readBody, readSiblings_withoutComments]

theorem readSwitch_withoutComments : ∀ t : Tree N,
    readSwitch options (t.withoutComments options) = readSwitch options t
  | .mk node below => by
      rw [Tree.withoutComments, readSwitch, readSwitch, readCases_withoutComments]

/-- **Siblings are read alike without the comments among and below them.** -/
theorem readSiblings_withoutComments : ∀ (ts : List (Tree N)) (pairing : Pairing),
    readSiblings options pairing (Tree.allWithoutComments options ts) = readSiblings options pairing ts
  | [], _ => by rw [Tree.allWithoutComments]
  | t :: rest, pairing => by
      rw [Tree.allWithoutComments]
      split
      · next hcomment => rw [readSiblings_comment hcomment, readSiblings_withoutComments rest]
      · rw [readSiblings, readSiblings, Tree.node_withoutComments, readBody_withoutComments t,
          readSwitch_withoutComments t]
        simp only [readSiblings_withoutComments rest]

/-- **Children of a switch are read alike without the comments among and below them.** -/
theorem readCases_withoutComments : ∀ (ts : List (Tree N)) (hasDefault : Bool),
    readCases options hasDefault (Tree.allWithoutComments options ts) = readCases options hasDefault ts
  | [], _ => by rw [Tree.allWithoutComments]
  | t :: rest, hasDefault => by
      rw [Tree.allWithoutComments]
      split
      · next hcomment => rw [readCases_comment hcomment, readCases_withoutComments rest]
      · rw [readCases, readCases, Tree.node_withoutComments, readBody_withoutComments t]
        simp only [readCases_withoutComments rest]

end

end Source

end Trees

/-! ## Nodes -/

namespace Node

variable (options : Options)

mutual
/-- A node without the comments below it. -/
def withoutComments : Node → Node
  | mk (.text content) attributes children => mk (.text content) attributes children
  | mk (.element tag) attributes children =>
      mk (.element tag) attributes (allWithoutComments children)
/-- **Some nodes without the comments among and below them**, each with all that is in it. -/
def allWithoutComments : List Node → List Node
  | [] => []
  | n :: rest =>
      if (options.role n).isComment then allWithoutComments rest
      else withoutComments n :: allWithoutComments rest
end

/-- **A node without the comments below it is a twin of the node.** -/
theorem twin_withoutComments (n : Node) :
    Host.Twin options options id n (n.withoutComments options) := by
  obtain ⟨content | tag, attributes, children⟩ := n
  · rw [withoutComments]
    exact ⟨(Role.rename_id _).symm, rfl, fun _ => rfl, fun _ => rfl, fun _ => rfl, fun _ => rfl⟩
  · rw [withoutComments]
    refine ⟨(Role.rename_id _).symm, rfl, fun _ => rfl, fun {content} h => ?_, fun _ => rfl,
      fun _ => rfl⟩
    exact (Option.some_ne_none content (Options.text?_of_role_text h).symm).elim

mutual

/-- The tree of a node without comments, and the node's tree without them. -/
theorem related_withoutComments : ∀ n : Node,
    Tree.Related options (Host.Twin options options id) (n.tree.withoutComments options)
      (n.withoutComments options).tree
  | mk (.text content) attributes children => by
      have htwin := twin_withoutComments options (mk (.text content) attributes children)
      rw [withoutComments] at htwin
      rw [withoutComments, tree, Tree.withoutComments]
      -- what is below a text is no part of the template
      exact .mk htwin fun hopens => absurd hopens Bool.false_ne_true
  | mk (.element tag) attributes children => by
      have htwin := twin_withoutComments options (mk (.element tag) attributes children)
      rw [withoutComments] at htwin
      rw [withoutComments, tree, tree, Tree.withoutComments]
      exact .mk htwin fun _ => allRelated_withoutComments children

theorem allRelated_withoutComments : ∀ nodes : List Node,
    Tree.AllRelated options (Host.Twin options options id)
      (Tree.allWithoutComments options (trees nodes)) (trees (allWithoutComments options nodes))
  | [] => by
      rw [trees, Tree.allWithoutComments, allWithoutComments, trees]
      exact .nil
  | n :: rest => by
      have hnode : n.tree.node = n := by rw [tree_eq, Tree.node_mk]
      rw [trees, Tree.allWithoutComments, allWithoutComments, hnode]
      split
      · exact allRelated_withoutComments rest
      · rw [trees]
        exact .cons (related_withoutComments n) (allRelated_withoutComments rest)

end

end Node

/-! ## Templates -/

/-- **Comments are invisible.**  Without its comments, wherever they stand and whatever is in them, a
template is compiled to the same entries and with the same count, or refused with the same error. -/
theorem Template.compile_withoutComments (options : Options) (nodes : List Node) :
    compile options (Node.allWithoutComments options nodes) = compile options nodes ∧
      tally options (Node.allWithoutComments options nodes) = tally options nodes := by
  have htwins := Source.readSiblings_twins ⟨rfl, rfl⟩ .closed
    (Node.allRelated_withoutComments options nodes)
  rw [Source.readSiblings_withoutComments, Node.trees_eq_map, Node.trees_eq_map] at htwins
  have hcompile := (Template.compile_sameButTag ⟨rfl, rfl⟩ htwins).eq
  exact ⟨hcompile, by rw [tally_eq_map, tally_eq_map, hcompile]⟩

example :
    Node.allWithoutComments .default
      [.element "p" []
        [.text "a", .element "gb-comment" [] [.element "gb-else" [] [.text "b"]], .text "c"],
        .element "gb-comment" [] []] = [.element "p" [] [.text "a", .text "c"]] := by rfl

end Stencil
