import Stencil.Dictionary
import Stencil.Node.Basic

/-!
# Node/Sorted — a second kind of tree, and ways for a tree to misbehave

A sorted node keeps its attributes in the order of their names.  Its type says which one of its
operations is at fault, so that everything about templates can also be asked of trees that do not
keep the laws: a copy that loses or repeats children, children that cannot be reached for changing, or
an attribute that is listed but not there.
-/

namespace Stencil

/-- Which operation of a tree is at fault. -/
inductive Fault where
  /-- None is. -/
  | sound
  /-- A copy has no children. -/
  | shallow
  /-- A copy repeats its last child. -/
  | doubling
  /-- No child can be reached for changing. -/
  | frozen
  /-- The attribute names begin with one more, which has no value unless it is really set. -/
  | ghost (name : String := "ghost")
deriving DecidableEq

/-- A node whose attributes are sorted by name. -/
inductive SortedNode (fault : Fault) where
  | text (content : String)
  | element (tag : String) (attributes : Dictionary String) (children : List (SortedNode fault))

namespace SortedNode

variable {fault : Fault}

mutual
/-- A node with its attributes sorted; of a repeated name the last value counts. -/
def ofNode : Node → SortedNode fault
  | .mk (.text content) _ _ => text content
  | .mk (.element tag) attributes children =>
      element tag (Dictionary.empty.insertAll attributes) (ofNodes children)
/-- Nodes with their attributes sorted. -/
def ofNodes : List Node → List (SortedNode fault)
  | [] => []
  | n :: rest => ofNode n :: ofNodes rest
end

mutual
/-- The node with its attributes in the order they are kept. -/
def toNode : SortedNode fault → Node
  | text content => .text content
  | element tag attributes children => .mk (.element tag) attributes.entries (toNodes children)
/-- The nodes with their attributes in the order they are kept. -/
def toNodes : List (SortedNode fault) → List Node
  | [] => []
  | n :: rest => n.toNode :: toNodes rest
end

/-- The tag of an element. -/
def tag? : SortedNode fault → Option String
  | text _ => none
  | element tag _ _ => some tag

/-- The content of a text. -/
def text? : SortedNode fault → Option String
  | text content => some content
  | element _ _ _ => none

/-- The attributes of an element. -/
def attributes : SortedNode fault → Dictionary String
  | text _ => .empty
  | element _ attributes _ => attributes

/-- The children in order. -/
def children : SortedNode fault → List (SortedNode fault)
  | text _ => []
  | element _ _ children => children

/-- The node with other attributes, unless it is a text. -/
def mapAttributes (f : Dictionary String → Dictionary String) :
    SortedNode fault → SortedNode fault
  | text content => text content
  | element tag attributes children => element tag (f attributes) children

/-- The node with other children, unless it is a text. -/
def mapChildren (f : List (SortedNode fault) → List (SortedNode fault)) :
    SortedNode fault → SortedNode fault
  | text content => text content
  | element tag attributes children => element tag attributes (f children)

/-- The attribute names, and the ghost in front of them in a tree that has one. -/
def attributeNames (n : SortedNode fault) : List String :=
  match fault with
  | .ghost name => name :: n.attributes.names
  | _ => n.attributes.names

/-- A copy, as faithful as the tree makes them. -/
def clone (n : SortedNode fault) : SortedNode fault :=
  match fault with
  | .shallow => n.mapChildren fun _ => []
  | .doubling => n.mapChildren fun children => children ++ children.getLast?.toList
  | _ => n

/-- The child at a position for changing, where the tree lets it be reached. -/
def focusChild? (n : SortedNode fault) (position : Nat) :
    Option (SortedNode fault × (SortedNode fault → SortedNode fault)) :=
  match fault with
  | .frozen => none
  | _ => n.children[position]?.map fun child =>
      (child, fun child => n.mapChildren (·.set position child))

mutual
/-- Everything below a node. -/
def tree : SortedNode fault → Tree (SortedNode fault)
  | text content => .mk (text content) []
  | element tag attributes children => .mk (element tag attributes children) (trees children)
/-- Everything below some nodes. -/
def trees : List (SortedNode fault) → List (Tree (SortedNode fault))
  | [] => []
  | n :: rest => n.tree :: trees rest
end

instance : Host (SortedNode fault) where
  ofText := text
  tag? := tag?
  text? := text?
  attributeNames := attributeNames
  attribute? n name := n.attributes.find? name
  children := children
  tree := tree
  clone := clone
  shell n := n.mapChildren fun _ => []
  setAttribute n name value := n.mapAttributes (·.insert name value)
  removeAttribute n name := n.mapAttributes (·.erase name)
  insertChild n position child :=
    n.mapChildren fun children => children.take position ++ child :: children.drop position
  replaceChild n position child := n.mapChildren (·.set position child)
  focusChild? := focusChild?

end SortedNode

end Stencil
