import Stencil.Tree

/-!
# Host — what a kind of tree has to offer

Templates are compiled from trees and rendered to trees of any kind with these operations.  Children
are addressed by position.  `clone` and `shell` both copy a node, with and without what is below it;
that a copy is faithful is a law a host may keep or break, not part of the interface.
-/

namespace Stencil

/-- A kind of tree node. -/
class Host (N : Type) where
  /-- A text node. -/
  ofText : String → N
  /-- The tag of an element; a text has none. -/
  tag? : N → Option String
  /-- The content of a text; an element has none. -/
  text? : N → Option String
  /-- The names of the attributes, in the order the tree keeps them. -/
  attributeNames : N → List String
  /-- The value of an attribute. -/
  attribute? : N → String → Option String
  /-- The children, in order. -/
  children : N → List N
  /-- Everything below a node, as a finite tree. -/
  tree : N → Tree N
  /-- A copy with all that is below the node. -/
  clone : N → N
  /-- A copy without children. -/
  shell : N → N
  /-- The node with an attribute set. -/
  setAttribute : N → String → String → N
  /-- The node with an attribute removed. -/
  removeAttribute : N → String → N
  /-- The node with a child put in at a position. -/
  insertChild : N → Nat → N → N
  /-- The node with the child at a position replaced. -/
  replaceChild : N → Nat → N → N
  /-- The child at a position for changing, and the node with what it becomes. -/
  focusChild? : N → Nat → Option (N × (N → N))

namespace Host

variable {N : Type} [Host N]

/-- Whether an attribute is there. -/
def hasAttribute (node : N) (name : String) : Bool := (attribute? node name).isSome

/-- How many children a node has. -/
def childCount (node : N) : Nat := (children node).length

/-- The node with one more child at the end. -/
def append (node child : N) : N := insertChild node (childCount node) child

end Host

end Stencil
