import Stencil.Node.Basic
import Stencil.Proofs.Direct.Simulation

/-!
# Proofs/Node/Sound — nodes that are what they look like

A node is sound if texts are bare and no element repeats an attribute, in it and everywhere below it.
-/

namespace Stencil

namespace Node

/-- A node in which texts are bare and attributes have distinct names. -/
inductive Sound : Node → Prop
  | text (content : String) : Sound (.text content)
  | element (tag : String) {attributes : Assoc String} {children : List Node}
      (distinct : (Assoc.names attributes).Nodup) (below : ∀ c ∈ children, Sound c) :
      Sound (.mk (.element tag) attributes children)

/-- Below a sound node all nodes are sound. -/
theorem Sound.of_mem_children {n : Node} (h : n.Sound) : ∀ c ∈ n.children, c.Sound := by
  rcases h with content | ⟨tag, _, below⟩
  · exact fun c hc => nomatch hc
  · exact below

/-- A sound node has each attribute once. -/
theorem Sound.nodup_names {n : Node} (h : n.Sound) : (Assoc.names n.attributes).Nodup := by
  rcases h with content | ⟨tag, distinct, _⟩
  · exact List.nodup_nil
  · exact distinct

/-- A sound text is bare. -/
theorem Sound.eq_text {n : Node} (h : n.Sound) {content : String} (htext : n.text? = some content) :
    n = .text content := by
  rcases h with content' | ⟨tag, _, _⟩
  · obtain rfl := Option.some.inj htext
    rfl
  · exact nomatch htext

mutual
/-- Whether a node is sound. -/
def decSound : (n : Node) → Decidable n.Sound
  | mk (.text content) [] [] => isTrue (.text content)
  | mk (.text _) (_ :: _) _ => isFalse (fun h => nomatch h)
  | mk (.text _) [] (_ :: _) => isFalse (fun h => nomatch h)
  | mk (.element tag) attributes children =>
      if hdistinct : (Assoc.names attributes).Nodup then
        match decSoundAll children with
        | isTrue h => isTrue (.element tag hdistinct h)
        | isFalse h => isFalse (fun hsound => h hsound.of_mem_children)
      else isFalse (fun hsound => hdistinct hsound.nodup_names)
/-- Whether all nodes are sound. -/
def decSoundAll : (nodes : List Node) → Decidable (∀ n ∈ nodes, n.Sound)
  | [] => isTrue (fun _ h => nomatch h)
  | n :: rest =>
      match decSound n, decSoundAll rest with
      | isTrue h, isTrue hrest => isTrue (List.forall_mem_cons.2 ⟨h, hrest⟩)
      | isFalse h, _ => isFalse (fun hall => h (hall n List.mem_cons_self))
      | isTrue _, isFalse hrest =>
          isFalse (fun hall => hrest fun m hm => hall m (List.mem_cons_of_mem n hm))
end

instance (n : Node) : Decidable n.Sound := decSound n

/-! ## The trees of sound nodes -/

theorem trees_eq_map (nodes : List Node) : trees nodes = nodes.map tree := by
  induction nodes with
  | nil => rw [trees]; rfl
  | cons n rest ih => rw [trees, ih]; rfl

/-- **The tree of a node** is the node over the trees of its children. -/
theorem tree_eq (n : Node) : n.tree = .mk n (n.children.map tree) := by
  obtain ⟨label, attributes, children⟩ := n
  rw [tree, trees_eq_map]
  rfl

theorem node_tree (n : Node) : n.tree.node = n := by rw [tree_eq]; rfl

/-- A relation between sound nodes and what they are carried to holds in their trees, if what is below
them is carried along. -/
theorem Sound.related {M : Type} [Host M] {options : Options} {P : Node → M → Prop} {f : Node → M}
    (htree : ∀ n : Node, n.Sound →
      Host.tree (f n) = .mk (f n) (n.children.map fun c => Host.tree (f c)))
    (hP : ∀ n : Node, n.Sound → P n (f n)) {n : Node} (h : n.Sound) :
    Tree.Related options P (Host.tree n) (Host.tree (f n)) := by
  have hself : ∀ n : Node, Host.tree n = .mk n (n.children.map Host.tree) := tree_eq
  induction h with
  | text content =>
    rw [htree _ (.text content), hself]
    exact .mk (hP _ (.text content)) fun _ => .nil
  | element tag distinct below ih =>
    have hsound := Sound.element tag distinct below
    rw [htree _ hsound, hself]
    exact .mk (hP _ hsound) fun _ => Tree.allRelated_map ih

end Node

end Stencil
