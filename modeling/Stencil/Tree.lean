/-!
# Tree — finite trees of nodes

What a template is written in, and what recursion over it follows: a node together with the trees of
its children.
-/

namespace Stencil

/-- A node and the trees of its children. -/
inductive Tree (N : Type) where
  | mk (node : N) (children : List (Tree N))

/-- The node at the top of a tree. -/
def Tree.node {N : Type} : Tree N → N
  | mk node _ => node

end Stencil
