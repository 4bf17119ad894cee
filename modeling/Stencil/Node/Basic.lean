import Stencil.Assoc
import Stencil.Host

/-!
# Node/Basic — the tree that templates are usually written in

A node is a text or an element, with attributes in written order and children.  A text normally has
neither; one that was built as an element tagged `#text` may, and keeps them, but a text never gets an
attribute or a child afterwards.  Positions past the end append on insertion and do nothing otherwise.
-/

namespace Stencil

/-- What a node is. -/
inductive Label where
  | text (content : String)
  | element (tag : String)
deriving DecidableEq

/-- A node of the tree. -/
inductive Node where
  | mk (label : Label) (attributes : List (String × String)) (children : List Node)

namespace Node

/-- Whether a node is a text or an element. -/
def label : Node → Label
  | mk label _ _ => label

/-- The attributes in order. -/
def attributes : Node → Assoc String
  | mk _ attributes _ => attributes

/-- The children in order. -/
def children : Node → List Node
  | mk _ _ children => children

/-- A text. -/
def text (content : String) : Node := mk (.text content) [] []

/-- The tag that texts go by. -/
def textTag : String := "#text"

/-- An element, or an empty text if the tag is the one that texts go by. -/
def element (tag : String) (attributes : Assoc String) (children : List Node) : Node :=
  mk (if tag = textTag then .text "" else .element tag) attributes children

/-- The content of a text. -/
def text? (n : Node) : Option String :=
  match n.label with
  | .text content => some content
  | .element _ => none

/-- The tag of an element. -/
def tag? (n : Node) : Option String :=
  match n.label with
  | .text _ => none
  | .element tag => some tag

/-- Whether a node is a text. -/
def isText (n : Node) : Bool := n.text?.isSome

mutual
/-- All texts in and below a node, joined. -/
def textContent : Node → String
  | mk (.text content) _ _ => content
  | mk (.element _) _ children => joinedText children
/-- All texts of some nodes, joined. -/
def joinedText : List Node → String
  | [] => ""
  | n :: rest => n.textContent ++ joinedText rest
end

mutual
/-- Whether two nodes are equal. -/
def decEq : (a b : Node) → Decidable (a = b)
  | mk l as cs, mk l' as' cs' =>
      if hl : l = l' then
        if ha : as = as' then
          match decEqAll cs cs' with
          | isTrue hc => isTrue (by rw [hl, ha, hc])
          | isFalse hc => isFalse (fun h => hc (Node.mk.inj h).2.2)
        else isFalse (fun h => ha (Node.mk.inj h).2.1)
      else isFalse (fun h => hl (Node.mk.inj h).1)
/-- Whether two lists of nodes are equal. -/
def decEqAll : (as bs : List Node) → Decidable (as = bs)
  | [], [] => isTrue rfl
  | [], _ :: _ => isFalse (fun h => nomatch h)
  | _ :: _, [] => isFalse (fun h => nomatch h)
  | a :: as, b :: bs =>
      match decEq a b with
      | isTrue h =>
          match decEqAll as bs with
          | isTrue hs => isTrue (by rw [h, hs])
          | isFalse hs => isFalse (fun e => hs (List.cons.inj e).2)
      | isFalse h => isFalse (fun e => h (List.cons.inj e).1)
end

instance : DecidableEq Node := decEq

/-! ## One node at a time -/

/-- Set an attribute of an element: in its place if it is there, else behind the others. -/
def setAttribute (n : Node) (name value : String) : Node :=
  if n.isText then n else mk n.label (n.attributes.put name value) n.children

/-- Remove the first attribute of a name. -/
def removeAttribute (n : Node) (name : String) : Node :=
  mk n.label (n.attributes.erase name) n.children

/-- Put a child into an element, at the end if the position is past it. -/
def insertChild (n : Node) (position : Nat) (child : Node) : Node :=
  if n.isText then n
  else mk n.label n.attributes (n.children.take position ++ child :: n.children.drop position)

/-- Take the child at a position away. -/
def removeChild (n : Node) (position : Nat) : Node :=
  mk n.label n.attributes (n.children.eraseIdx position)

/-- Replace the child at a position. -/
def replaceChild (n : Node) (position : Nat) (child : Node) : Node :=
  mk n.label n.attributes (n.children.set position child)

/-- The node without its children. -/
def shell (n : Node) : Node := mk n.label n.attributes []

/-- The child at a position, and the node with what it becomes. -/
def focusChild? (n : Node) (position : Nat) : Option (Node × (Node → Node)) :=
  n.children[position]?.map fun child => (child, n.replaceChild position)

/-! ## As a host -/

mutual
/-- Everything below a node. -/
def tree : Node → Tree Node
  | mk label attributes children => .mk (mk label attributes children) (trees children)
/-- Everything below some nodes. -/
def trees : List Node → List (Tree Node)
  | [] => []
  | n :: rest => n.tree :: trees rest
end

instance : Host Node where
  ofText := text
  tag? := tag?
  text? := text?
  attributeNames n := n.attributes.names
  attribute? n name := n.attributes.find? name
  children := children
  tree := tree
  clone n := n
  shell := shell
  setAttribute := setAttribute
  removeAttribute := removeAttribute
  insertChild := insertChild
  replaceChild := replaceChild
  focusChild? := focusChild?

end Node

end Stencil
