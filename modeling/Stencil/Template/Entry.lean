import Stencil.Interpolation
import Stencil.Template.Source

/-!
# Template/Entry — what a template is compiled to

Compiling separates what never changes from what depends on data.  A part without anything dynamic
becomes one node, ready to be copied.  A text with placeholders becomes an interpolation.  An element
with something dynamic in it becomes a skeleton: a node with the unchanging attributes and, as
children, what stands in for its entries that are not directives, so that each such entry has its slot.
-/

namespace Stencil

/-- A part of a compiled template. -/
inductive Entry (N : Type) where
  | static (node : N)
  | leaf (text : Interpolation)
  | element (skeleton : N) (attributes : List (String × Interpolation)) (children : List (Entry N))
  | flow (flow : Flow (Entry N))

namespace Entry

variable {N : Type}

/-- Whether an entry is a node that never changes. -/
def isStatic : Entry N → Bool
  | static _ => true
  | _ => false

variable [Host N]

/-- The node that holds an entry's place in a skeleton; a directive has none. -/
def slot? : Entry N → Option N
  | static node => some (Host.clone node)
  | leaf text => some (Host.ofText text.skeleton)
  | element skeleton _ _ => some (Host.clone skeleton)
  | flow _ => none

/-- A skeleton with a slot for one more entry, if it needs one. -/
def attach (skeleton : N) (entry : Entry N) : N :=
  match entry.slot? with
  | some slot => Host.append skeleton slot
  | none => skeleton

end Entry

section Compile

variable {N : Type} [Host N]

/-- The attributes of a node whose values hold placeholders, in the order of the names. -/
def dynamicAttributes (placeholder : Placeholder) (node : N) : List (String × Interpolation) :=
  (Host.attributeNames node).filterMap fun name =>
    (Host.attribute? node name).bind fun raw =>
      let text := Interpolation.ofText placeholder raw
      if text.isDynamic then some (name, text) else none

/-- A copy of a node alone, without the attributes that are filled in later. -/
def bareSkeleton (placeholder : Placeholder) (node : N) : N :=
  (dynamicAttributes placeholder node).foldl
    (fun skeleton entry => Host.removeAttribute skeleton entry.1) (Host.shell node)

/-- The entry of a text. -/
def Entry.ofText (placeholder : Placeholder) (node : N) (content : String) : Entry N :=
  let text := Interpolation.ofText placeholder content
  if text.isDynamic then .leaf text else .static (Host.clone node)

/-- The entry of an element with its children's entries. -/
def Entry.ofElement (placeholder : Placeholder) (node : N) (children : List (Entry N)) : Entry N :=
  let attributes := dynamicAttributes placeholder node
  let skeleton := children.foldl Entry.attach (bareSkeleton placeholder node)
  if attributes.isEmpty ∧ children.all Entry.isStatic then .static skeleton
  else .element skeleton attributes children

mutual
/-- **The entry of a part of a template.** -/
def Source.compile (placeholder : Placeholder) : Source N → Entry N
  | .text node content => .ofText placeholder node content
  | .element node children => .ofElement placeholder node (compileAll placeholder children)
  | .flow f => .flow (compileFlow placeholder f)
/-- The entries of parts of a template. -/
def Source.compileAll (placeholder : Placeholder) : List (Source N) → List (Entry N)
  | [] => []
  | item :: rest => compile placeholder item :: compileAll placeholder rest
/-- A directive over entries. -/
def Source.compileFlow (placeholder : Placeholder) : Flow (Source N) → Flow (Entry N)
  | .conditional condition body elseIfs otherwise? =>
      .conditional condition (compileAll placeholder body) (compileElseIfs placeholder elseIfs)
        (compileOption placeholder otherwise?)
  | .loop loop body otherwise? =>
      .loop loop (compileAll placeholder body) (compileOption placeholder otherwise?)
  | .binding bindings body => .binding bindings (compileAll placeholder body)
  | .switch subject cases otherwise? =>
      .switch subject (compileCases placeholder cases) (compileOption placeholder otherwise?)
/-- The `else-if` branches over entries. -/
def Source.compileElseIfs (placeholder : Placeholder) :
    List (Branch Condition (Source N)) → List (Branch Condition (Entry N))
  | [] => []
  | ⟨condition, body⟩ :: rest =>
      ⟨condition, compileAll placeholder body⟩ :: compileElseIfs placeholder rest
/-- The cases over entries. -/
def Source.compileCases (placeholder : Placeholder) :
    List (Branch Operand (Source N)) → List (Branch Operand (Entry N))
  | [] => []
  | ⟨operand, body⟩ :: rest =>
      ⟨operand, compileAll placeholder body⟩ :: compileCases placeholder rest
/-- A body that may be absent, over entries. -/
def Source.compileOption (placeholder : Placeholder) :
    Option (List (Source N)) → Option (List (Entry N))
  | none => none
  | some body => some (compileAll placeholder body)
end

end Compile

/-- A compiled template. -/
structure Template (N : Type) where
  entries : List (Entry N)

/-- **Compile a template.** -/
def Template.compile {N : Type} [Host N] (options : Options) (nodes : List N) :
    Except TemplateError (Template N) :=
  (Source.read options nodes).map fun items => ⟨Source.compileAll options.placeholder items⟩

end Stencil
