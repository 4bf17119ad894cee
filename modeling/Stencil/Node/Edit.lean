import Stencil.Node.Basic

/-!
# Node/Edit — changing a node somewhere in a tree

A place in a tree is the list of positions that lead to it from the root.  An edit at a place changes
the node there and leaves everything else as it was; a place that does not exist stays that way.  The
positions an edit is given are machine words of 64 bits: the position behind the greatest one is 0.
-/

namespace Stencil

namespace Node

/-- The node at a place. -/
def at? (n : Node) : List Nat → Option Node
  | [] => some n
  | position :: rest => n.children[position]?.bind (·.at? rest)

/-- The tree with the node at a place changed. -/
def modifyAt (edit : Node → Node) (n : Node) : List Nat → Node
  | [] => edit n
  | position :: rest =>
      match n.children[position]? with
      | some child => n.replaceChild position (child.modifyAt edit rest)
      | none => n

/-- A change of one node. -/
inductive Edit where
  | setAttribute (name value : String)
  | removeAttribute (name : String)
  | insertBefore (position : UInt64) (child : Node)
  | insertAfter (position : UInt64) (child : Node)
  | append (child : Node)
  | remove (position : UInt64)
  | replace (position : UInt64) (child : Node)
  /-- Put another node in this one's place. -/
  | become (node : Node)

/-- The node after an edit. -/
def Edit.apply : Edit → Node → Node
  | setAttribute name value, n => n.setAttribute name value
  | removeAttribute name, n => n.removeAttribute name
  | insertBefore position child, n => n.insertChild position.toNat child
  -- the sum wraps
  | insertAfter position child, n => n.insertChild (position + 1).toNat child
  | append child, n => n.insertChild n.children.length child
  | remove position, n => n.removeChild position.toNat
  | replace position child, n => n.replaceChild position.toNat child
  | become node, _ => node

/-- What an edit takes out of a node: a removed attribute's value, or a removed or replaced child. -/
inductive Removed where
  | nothing
  | value (value : String)
  | child (node : Node)
deriving DecidableEq

/-- What an edit takes out of a node. -/
def Edit.removed : Edit → Node → Removed
  | .removeAttribute name, n =>
      match n.attributes.find? name with
      | some value => .value value
      | none => .nothing
  | .remove position, n | .replace position _, n =>
      match n.children[position.toNat]? with
      | some child => .child child
      | none => .nothing
  | _, _ => .nothing

end Node

end Stencil
