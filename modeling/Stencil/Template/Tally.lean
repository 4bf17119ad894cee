import Stencil.Template.Entry

/-!
# Template/Tally — how many entries a template is compiled to

One count is kept while compiling and changed part by part, in the order in which the parts are written: a
text, an element or a directive adds one once it is compiled.  The children of an element come before the
element itself; if it collapses into one node, that node takes the place of its children in the count.

A directive adds one behind its own body, a switch behind its cases and its default, each where it is
written.  A companion adds what is in its body, where it stands.
-/

namespace Stencil

/-- How many entries of each sort there are. -/
@[ext] structure Tally where
  statics : Nat
  elements : Nat
  leaves : Nat
  flows : Nat
deriving DecidableEq

namespace Tally

/-- Nothing counted. -/
def zero : Tally := ⟨0, 0, 0, 0⟩

/-- A change of the count. -/
inductive Change where
  | static
  | element
  | leaf
  | flow
  /-- As many static entries as an element has children give way to one. -/
  | collapse (size : Nat)
deriving DecidableEq

/-- The count after a change. -/
def after (t : Tally) : Change → Tally
  | .static => { t with statics := t.statics + 1 }
  | .element => { t with elements := t.elements + 1 }
  | .leaf => { t with leaves := t.leaves + 1 }
  | .flow => { t with flows := t.flows + 1 }
  | .collapse size => { t with statics := t.statics - size + 1 }

end Tally

section Changes

variable {N : Type} [Host N] (options : Options)

/-- The entries of what is below a node. -/
def bodyEntries (t : Tree N) : List (Entry N) :=
  match Source.readBody options t with
  | .ok items => Source.compileAll options.placeholder items
  | .error _ => []

/-- The change that an element makes behind those of its children. -/
def elementChange (t : Tree N) : Tally.Change :=
  let entries := bodyEntries options t
  if (Entry.ofElement options.placeholder t.node entries).isStatic then .collapse entries.length
  else .element

/-- The change that a text makes. -/
def textChange (content : String) : Tally.Change :=
  if (Interpolation.ofText options.placeholder content).isDynamic then .leaf else .static

mutual
/-- The changes that compiling a node as a sibling makes, in order. -/
def changesOf : Tree N → List Tally.Change
  | .mk node children =>
      match options.role node with
      | .text content => [textChange options content]
      | .element => siblingChanges children ++ [elementChange options (.mk node children)]
      | .directive _ (some .conditional) | .directive _ (some .loop) | .directive _ (some .binding) =>
          siblingChanges children ++ [.flow]
      | .directive _ (some .switch) => caseChanges children ++ [.flow]
      | .directive _ (some .comment) => []
      | .directive _ _ => siblingChanges children
/-- The changes that compiling siblings makes. -/
def siblingChanges : List (Tree N) → List Tally.Change
  | [] => []
  | tree :: rest => changesOf tree ++ siblingChanges rest
/-- The changes that compiling the children of a switch makes. -/
def caseChanges : List (Tree N) → List Tally.Change
  | [] => []
  | tree :: rest =>
      (match options.role tree.node with
        | .directive _ (some .case) | .directive _ (some .caseDefault) => changesOfBody tree
        | _ => [])
      ++ caseChanges rest
/-- The changes that compiling the children of a node makes. -/
def changesOfBody : Tree N → List Tally.Change
  | .mk _ children => siblingChanges children
end

end Changes

/-- The changes of the count that compiling a template makes. -/
def Template.changes {N : Type} [Host N] (options : Options) (nodes : List N) :
    Except TemplateError (List Tally.Change) :=
  (Source.read options nodes).map fun _ => siblingChanges options (nodes.map Host.tree)

/-- **The count** that compiling a template comes to. -/
def Template.tally {N : Type} [Host N] (options : Options) (nodes : List N) :
    Except TemplateError Tally :=
  (changes options nodes).map fun all => all.foldl Tally.after .zero

end Stencil
