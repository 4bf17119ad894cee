import Stencil.Host
import Stencil.Number.Decimal
import Stencil.Options
import Stencil.Path
import Stencil.Report

/-!
# Template/Directive — the directives of a template and how their tags are written

A directive decides which of its bodies are rendered, how often and under which names.  `Flow` is a
directive over bodies of any kind of item, as written or as compiled.  What a directive's own
attributes say is read here; how directives belong together is a matter of the siblings.
-/

namespace Stencil

/-! ## What directives say -/

/-- The right side of a comparison: a text that stands for itself, or a path. -/
inductive Operand where
  | literal (text : String)
  | path (path : Path)
deriving DecidableEq

/-- A numeric comparison. -/
inductive Comparison where
  | gt | ge | lt | le
deriving DecidableEq

/-- The comparisons in the order in which a condition makes them. -/
def Comparison.all : List Comparison := [.gt, .ge, .lt, .le]

/-- The word for a comparison. -/
def Comparison.label : Comparison → String
  | gt => "gt"
  | ge => "ge"
  | lt => "lt"
  | le => "le"

/-- Whether two numbers compare so. -/
def Comparison.holds : Comparison → Double → Double → Bool
  | gt, x, y => y.below x
  | ge, x, y => y.atMost x
  | lt, x, y => x.below y
  | le, x, y => x.atMost y

/-- A test on the value at a path: whether it is null, or whether it is equal to an operand and
compares with operands as said, or whether it is true; and whether the opposite is meant. -/
structure Condition where
  test : Path
  equal? : Option Operand
  comparisons : List (Comparison × Operand)
  null : Bool
  negated : Bool
deriving DecidableEq

/-- A counter that runs along a loop: `start`, `start + step` and so on, under a name. -/
structure Counter where
  name : String
  start : Double
  step : Double
deriving DecidableEq

/-- What a loop runs over, the names it binds, and whether each round goes in front of the ones
before. -/
structure Loop where
  iterable : Path
  valueName : String
  keyName? : Option String
  counter? : Option Counter
  toTop : Bool
deriving DecidableEq

/-- A body behind a guard. -/
structure Branch (G E : Type) where
  guard : G
  body : List E

/-- A directive over bodies of `E`. -/
inductive Flow (E : Type) where
  | conditional (condition : Condition) (body : List E) (elseIfs : List (Branch Condition E))
      (otherwise? : Option (List E))
  | loop (loop : Loop) (body : List E) (otherwise? : Option (List E))
  | binding (bindings : List (String × Path)) (body : List E)
  | switch (subject : Path) (cases : List (Branch Operand E)) (otherwise? : Option (List E))

/-! ## Tags -/

/-- What the part of a tag behind the marker can say. -/
inductive Keyword where
  | conditional | elseIf | otherwise | loop | loopElse | binding | switch | case | caseDefault
  | comment
deriving DecidableEq

/-- The word for a keyword. -/
def Keyword.label : Keyword → String
  | conditional => "if"
  | elseIf => "else-if"
  | otherwise => "else"
  | loop => "for"
  | loopElse => "for-else"
  | binding => "with"
  | switch => "switch"
  | case => "case"
  | caseDefault => "case-default"
  | comment => "comment"

/-- The keywords. -/
def Keyword.all : List Keyword :=
  [conditional, elseIf, otherwise, loop, loopElse, binding, switch, case, caseDefault, comment]

/-- The keyword that a word is. -/
def Keyword.ofLabel? (word : String) : Option Keyword := all.find? (·.label = word)

/-- What a node of a template is: a text, an element, or a directive with its tag; the tag may name
none of the known ones. -/
inductive Role where
  | text (content : String)
  | element
  | directive (tag : String) (keyword? : Option Keyword)
deriving DecidableEq

/-- What a node of a template is. -/
def Options.role {N : Type} [Host N] (options : Options) (node : N) : Role :=
  match (Host.tag? node).bind fun tag => (options.directiveName? tag).map (tag, ·) with
  | some (tag, name) => .directive tag (Keyword.ofLabel? name)
  | none =>
      match Host.text? node with
      | some content => .text content
      | none => .element

/-! ## What can be wrong -/

/-- What a companion has to follow. -/
inductive Partner where
  | conditional | loop
deriving DecidableEq

/-- The words for a partner. -/
def Partner.label : Partner → String
  | conditional => "`if` or `else-if`"
  | loop => "`for`"

/-- Where a node may not stand. -/
inductive Position where
  | outsideSwitch | insideSwitch | twiceInSwitch
deriving DecidableEq

/-- The words for a position. -/
def Position.label : Position → String
  | outsideSwitch => "outside a `switch`"
  | insideSwitch => "inside a `switch`"
  | twiceInSwitch => "twice in one `switch`"

/-- Why a template cannot be compiled. -/
inductive TemplateError where
  /-- A companion follows none of the directives it belongs to. -/
  | misplaced (tag : String) (partner : Partner)
  /-- A directive lacks an attribute it needs. -/
  | missingAttribute (tag name : String)
  /-- An attribute that has to be a finite number is none. -/
  | invalidAttribute (tag name value : String)
  /-- A marked tag is not a directive. -/
  | unknownDirective (tag : String)
  /-- A node stands where it may not. -/
  | unexpectedContent (tag : String) (position : Position)
deriving DecidableEq

/-- The wording of a template error. -/
def TemplateError.report : TemplateError → Report
  | misplaced tag partner =>
      ⟨"gabarit::misplaced_directive", "`" ++ tag ++ "` must directly follow " ++ partner.label,
        some "Only whitespace and comments may separate a directive from its companion"⟩
  | missingAttribute tag name =>
      ⟨"gabarit::missing_attribute",
        "`" ++ tag ++ "` requires the `" ++ name ++ "` attribute", none⟩
  | invalidAttribute tag name value =>
      ⟨"gabarit::invalid_attribute",
        "Attribute `" ++ name ++ "` on `" ++ tag ++ "` has invalid value `" ++ value ++ "`",
        some "Expected a finite number"⟩
  | unknownDirective tag =>
      ⟨"gabarit::unknown_directive", "Unknown directive `" ++ tag ++ "`",
        some ("Known directives: " ++ String.intercalate ", " (Keyword.all.map Keyword.label))⟩
  | unexpectedContent tag position =>
      ⟨"gabarit::unexpected_content", "`" ++ tag ++ "` cannot appear " ++ position.label,
        some ("A `switch` holds `case` and `case-default` children, "
          ++ "plus whitespace and comments")⟩

/-! ## Reading the attributes of a directive -/

section Attributes

variable {N : Type} [Host N]

/-- The value of an attribute that has to be there. -/
def requiredAttribute (node : N) (tag name : String) : Except TemplateError String :=
  match Host.attribute? node name with
  | some value => .ok value
  | none => .error (.missingAttribute tag name)

/-- An attribute as an operand: a path if an attribute of its name and `-v` is there too. -/
def operand? (node : N) (name : String) : Option Operand :=
  (Host.attribute? node name).map fun raw =>
    if Host.hasAttribute node (name ++ "-v") then .path ⟨raw⟩ else .literal raw

/-- An attribute that has to be a finite number if it is there. -/
def numberAttribute (node : N) (tag name : String) (absent : Double) :
    Except TemplateError Double :=
  match Host.attribute? node name with
  | none => .ok absent
  | some raw =>
      match (Double.read? (Text.trim raw.toList)).bind Double.finite? with
      | some x => .ok (.finite x)
      | none => .error (.invalidAttribute tag name raw)

/-- The condition that a directive's attributes say. -/
def readCondition (node : N) (tag : String) : Except TemplateError Condition :=
  (requiredAttribute node tag "test").map fun test =>
    { test := ⟨test⟩
      equal? := operand? node "eq"
      comparisons := Comparison.all.filterMap fun comparison =>
        (operand? node comparison.label).map (comparison, ·)
      null := Host.hasAttribute node "is-null"
      negated := Host.hasAttribute node "not" }

/-- The counter that a loop's attributes say, if they say one. -/
def readCounter (node : N) (tag : String) : Except TemplateError (Option Counter) :=
  match Host.attribute? node "index" with
  | none => .ok none
  | some name => do
      let start ← numberAttribute node tag "index-start" (.ofInt 0)
      let step ← numberAttribute node tag "index-step" (.ofInt 1)
      .ok (some ⟨name, start, step⟩)

/-- The loop that a directive's attributes say. -/
def readLoop (node : N) (tag : String) : Except TemplateError Loop := do
  let iterable ← requiredAttribute node tag "in"
  let valueName ← requiredAttribute node tag "as"
  let counter? ← readCounter node tag
  .ok { iterable := ⟨iterable⟩
        valueName := valueName
        keyName? := Host.attribute? node "key"
        counter? := counter?
        toTop := Host.hasAttribute node "to-top" }

/-- The names that a directive's attributes bind, and the paths they stand for. -/
def readBindings (node : N) : List (String × Path) :=
  (Host.attributeNames node).filterMap fun name =>
    (Host.attribute? node name).map fun path => (name, ⟨path⟩)

end Attributes

end Stencil
