import Stencil.Template.Directive

/-!
# Template/Source — the structure of a template

Reading a template finds its directives and puts them together.  An `else-if` or `else` belongs to the
`if` before it and a `for-else` to the `for` before it, with nothing but white space and comments in
between; the white space stays, behind the directive.  Comments vanish with all that is in them.

Siblings are read from the first on: `readSiblings pairing` hands back, beside the items it read, the
companions for the directive that `pairing` says is open before them.  Every error of a template is
found here, the first one in reading order; bodies are read before it is asked whether their
directive is in place.
-/

namespace Stencil

/-- A part of a template: a text, an element or a directive. -/
inductive Source (N : Type) where
  | text (node : N) (content : String)
  | element (node : N) (children : List (Source N))
  | flow (flow : Flow (Source N))

/-- Which directive before a sibling is open for companions. -/
inductive Pairing where
  | closed | conditional | loop
deriving DecidableEq

/-- The companions of an open directive. -/
structure Companions (E : Type) where
  elseIfs : List (Branch Condition E)
  otherwise? : Option (List E)

namespace Companions

variable {E : Type}

/-- No companion. -/
def none : Companions E := ⟨[], .none⟩

/-- One that ends the pairing. -/
def otherwise (body : List E) : Companions E := ⟨[], some body⟩

/-- One more `else-if` in front. -/
def cons (branch : Branch Condition E) (companions : Companions E) : Companions E :=
  { companions with elseIfs := branch :: companions.elseIfs }

end Companions

/-- Whether a companion is in place. -/
def checkPairing (pairing expected : Pairing) (tag : String) (partner : Partner) :
    Except TemplateError Unit :=
  if pairing = expected then .ok () else .error (.misplaced tag partner)

namespace Source

variable {N : Type} [Host N]

mutual
/-- Read the children of a node as a body of its own. -/
def readBody (options : Options) : Tree N → Except TemplateError (List (Source N))
  | .mk _ children => (readSiblings options .closed children).map Prod.snd
/-- Read the children of a switch. -/
def readSwitch (options : Options) :
    Tree N → Except TemplateError (List (Branch Operand (Source N)) × Option (List (Source N)))
  | .mk _ children => readCases options false children
/-- Read siblings behind a directive that may be open: its companions among them, and the other
items. -/
def readSiblings (options : Options) :
    Pairing → List (Tree N) → Except TemplateError (Companions (Source N) × List (Source N))
  | _, [] => .ok (.none, [])
  | pairing, tree :: rest =>
      match options.role tree.node with
      | .text content => do
          let (companions, items) ←
            readSiblings options (if Text.blank content then pairing else .closed) rest
          .ok (companions, .text tree.node content :: items)
      | .element => do
          let inside ← readBody options tree
          let (companions, items) ← readSiblings options .closed rest
          .ok (companions, .element tree.node inside :: items)
      | .directive tag none => .error (.unknownDirective tag)
      | .directive tag (some keyword) =>
          match keyword with
          | .conditional => do
              let condition ← readCondition tree.node tag
              let body ← readBody options tree
              let (own, items) ← readSiblings options .conditional rest
              .ok (.none, .flow (.conditional condition body own.elseIfs own.otherwise?) :: items)
          | .elseIf => do
              let condition ← readCondition tree.node tag
              let body ← readBody options tree
              checkPairing pairing .conditional tag .conditional
              let (companions, items) ← readSiblings options .conditional rest
              .ok (companions.cons ⟨condition, body⟩, items)
          | .otherwise => do
              let body ← readBody options tree
              checkPairing pairing .conditional tag .conditional
              let (_, items) ← readSiblings options .closed rest
              .ok (.otherwise body, items)
          | .loop => do
              let loop ← readLoop tree.node tag
              let body ← readBody options tree
              let (own, items) ← readSiblings options .loop rest
              .ok (.none, .flow (.loop loop body own.otherwise?) :: items)
          | .loopElse => do
              let body ← readBody options tree
              checkPairing pairing .loop tag .loop
              let (_, items) ← readSiblings options .closed rest
              .ok (.otherwise body, items)
          | .binding => do
              let body ← readBody options tree
              let (companions, items) ← readSiblings options .closed rest
              .ok (companions, .flow (.binding (readBindings tree.node) body) :: items)
          | .switch => do
              let subject ← requiredAttribute tree.node tag "value"
              let (cases, otherwise?) ← readSwitch options tree
              let (companions, items) ← readSiblings options .closed rest
              .ok (companions, .flow (.switch ⟨subject⟩ cases otherwise?) :: items)
          | .case => .error (.unexpectedContent tag .outsideSwitch)
          | .caseDefault => .error (.unexpectedContent tag .outsideSwitch)
          | .comment => readSiblings options pairing rest
/-- Read the children of a switch: its cases and its default.  `hasDefault` says that a default came
before. -/
def readCases (options : Options) :
    (hasDefault : Bool) → List (Tree N) →
      Except TemplateError (List (Branch Operand (Source N)) × Option (List (Source N)))
  | _, [] => .ok ([], none)
  | hasDefault, tree :: rest =>
      match options.role tree.node with
      | .directive tag (some .case) =>
          match operand? tree.node "value" with
          | none => .error (.missingAttribute tag "value")
          | some operand => do
              let body ← readBody options tree
              let (cases, otherwise?) ← readCases options hasDefault rest
              .ok (⟨operand, body⟩ :: cases, otherwise?)
      | .directive tag (some .caseDefault) =>
          if hasDefault then .error (.unexpectedContent tag .twiceInSwitch)
          else do
            let body ← readBody options tree
            let (cases, _) ← readCases options true rest
            .ok (cases, some body)
      | .directive _ (some .comment) => readCases options hasDefault rest
      | .directive tag _ => .error (.unexpectedContent tag .insideSwitch)
      | .text content =>
          if Text.blank content then readCases options hasDefault rest
          else .error (.unexpectedContent "#text" .insideSwitch)
      | .element =>
          .error (.unexpectedContent ((Host.tag? tree.node).getD "#text") .insideSwitch)
end

/-- **Read a template**: its parts, or the first thing wrong with it. -/
def read (options : Options) (nodes : List N) : Except TemplateError (List (Source N)) :=
  (readSiblings options .closed (nodes.map Host.tree)).map Prod.snd

end Source

end Stencil
