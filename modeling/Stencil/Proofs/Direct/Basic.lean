import Stencil.Proofs.Entry.Output
import Stencil.Proofs.Template.Reading

/-!
# Proofs/Direct/Basic — rendering by walking the source

A template can be rendered without compiling it: walk its source, decide at each directive which body
counts, and walk that.  There are no skeletons here, no slots, no positions and no shortcut for what
never changes.  A directive looks for its companions among the siblings behind it; met on its own, a
companion comes to nothing, and so does a comment.

How a text and an element come out is left to a `Painter`.
-/

namespace Stencil

/-- How the texts and the elements of a tree come out; an element is told what its children come
to. -/
structure Painter (N : Type) where
  text : Scope → N → String → Output N
  element : Scope → N → Output N → Output N

/-- What a directive comes to by what its attributes say; if they do not say what they should, that is
nothing. -/
def Output.stated {N α : Type} (reading : Except TemplateError α) (next : α → Output N) : Output N :=
  match reading with
  | .ok a => next a
  | .error _ => nil

@[simp] theorem Output.stated_ok {N α : Type} (a : α) (next : α → Output N) :
    stated (.ok a) next = next a := rfl

namespace Direct

variable {N : Type} [Host N]

/-! ## What directives choose -/

/-- What a directive with a condition comes to, by what its body and what is behind it come to. -/
def onCondition (scope : Scope) (node : N) (tag : String) (body other : Output N) : Output N :=
  .stated (readCondition node tag) fun condition =>
    .given (condition.evaluate scope) fun holds => if holds then body else other

/-- What a loop comes to, by what its body comes to in a round. -/
def onLoop (scope : Scope) (node : N) (tag : String) (body : Scope → Output N) (other : Output N) :
    Output N :=
  .stated (readLoop node tag) fun loop =>
    .given (loop.scopes scope) fun scopes =>
      if scopes.isEmpty then other else .rounds loop.toTop (scopes.map body)

/-- What a binding comes to, by what its body comes to inside. -/
def onBinding (scope : Scope) (node : N) (body : Scope → Output N) : Output N :=
  .given (scope.values (readBindings node)) fun values => body (scope.derive values)

/-- What a case comes to, by what its body and the cases behind it come to. -/
def onCase (scope : Scope) (subject : Path) (node : N) (body other : Output N) : Output N :=
  match operand? node "value" with
  | none => .nil
  | some operand =>
      .given (scope.equals subject operand) fun found => if found then body else other

/-! ## The walk -/

variable (options : Options) (painter : Painter N)

mutual
/-- What the children of a node come to. -/
def body (scope : Scope) : Tree N → Output N
  | .mk _ children => siblings scope children
/-- What the children of a switch come to: the first case that is equal to the subject, or else the
default. -/
def switch (scope : Scope) (subject : Path) : Tree N → Output N
  | .mk _ children => firstCase scope subject (defaultCase scope children) children
/-- **What siblings come to**, one after another. -/
def siblings (scope : Scope) : List (Tree N) → Output N
  | [] => .nil
  | tree :: rest =>
      (match options.role tree.node with
        | .text content => painter.text scope tree.node content
        | .element => painter.element scope tree.node (body scope tree)
        | .directive tag (some .conditional) =>
            onCondition scope tree.node tag (body scope tree) (elseBranch scope rest)
        | .directive tag (some .loop) =>
            onLoop scope tree.node tag (fun round => body round tree) (loopElse scope rest)
        | .directive _ (some .binding) => onBinding scope tree.node fun inside => body inside tree
        | .directive tag (some .switch) =>
            .stated (requiredAttribute tree.node tag "value") fun subject =>
              switch scope ⟨subject⟩ tree
        | _ => .nil) ++ siblings scope rest
/-- What the `else-if` and `else` behind a failed condition come to. -/
def elseBranch (scope : Scope) : List (Tree N) → Output N
  | [] => .nil
  | tree :: rest =>
      match options.role tree.node with
      | .text content => if Text.blank content then elseBranch scope rest else .nil
      | .directive _ (some .comment) => elseBranch scope rest
      | .directive tag (some .elseIf) =>
          onCondition scope tree.node tag (body scope tree) (elseBranch scope rest)
      | .directive _ (some .otherwise) => body scope tree
      | _ => .nil
/-- What the `for-else` behind a loop without rounds comes to. -/
def loopElse (scope : Scope) : List (Tree N) → Output N
  | [] => .nil
  | tree :: rest =>
      match options.role tree.node with
      | .text content => if Text.blank content then loopElse scope rest else .nil
      | .directive _ (some .comment) => loopElse scope rest
      | .directive _ (some .loopElse) => body scope tree
      | _ => .nil
/-- What the first case that is equal to the subject comes to, or else `fallback`. -/
def firstCase (scope : Scope) (subject : Path) (fallback : Output N) : List (Tree N) → Output N
  | [] => fallback
  | tree :: rest =>
      match options.role tree.node with
      | .directive _ (some .case) =>
          onCase scope subject tree.node (body scope tree) (firstCase scope subject fallback rest)
      | _ => firstCase scope subject fallback rest
/-- What the default of a switch comes to, if it has one. -/
def defaultCase (scope : Scope) : List (Tree N) → Output N
  | [] => .nil
  | tree :: rest =>
      match options.role tree.node with
      | .directive _ (some .caseDefault) => body scope tree
      | _ => defaultCase scope rest
end

/-- **What a template comes to** by walking its source. -/
def render (scope : Scope) (nodes : List N) : Output N :=
  siblings options painter scope (nodes.map Host.tree)

theorem body_eq (scope : Scope) (t : Tree N) :
    body options painter scope t = siblings options painter scope t.children := by
  obtain ⟨node, below⟩ := t
  rw [body, Tree.children_mk]

theorem switch_eq (scope : Scope) (subject : Path) (t : Tree N) :
    switch options painter scope subject t =
      firstCase options painter scope subject (defaultCase options painter scope t.children)
        t.children := by
  obtain ⟨node, below⟩ := t
  rw [switch, Tree.children_mk]

end Direct

end Stencil
