import Stencil.Dictionary
import Stencil.Path
import Stencil.Report
import Stencil.Value.Scalar

/-!
# Scope — the names a template sees and what they stand for

A scope is the root of the data with local names layered on top.  The first segment of a path is a
local name or a key of the root; each further one is a key of a mapping or an index into a sequence.
A path that leads nowhere is an error that lists the names in scope; nothing is filled in for it.
-/

namespace Stencil

/-- What a use of a value needs it to be. -/
inductive Shape where
  | scalar | sequenceOrMapping | mapping
deriving DecidableEq

/-- The word for a shape. -/
def Shape.label : Shape → String
  | scalar => "scalar"
  | sequenceOrMapping => "sequence or mapping"
  | mapping => "mapping"

/-- Why a path cannot be used. -/
inductive PathError where
  /-- It leads nowhere; these names are in scope. -/
  | undefined (path : Path) (available : List String)
  /-- It leads to a value of another shape than its use needs. -/
  | mismatch (path : Path) (expected : Shape) (found : Kind)
deriving DecidableEq

/-- The wording of a path error. -/
def PathError.report : PathError → Report
  | undefined path available =>
      ⟨"gabarit::undefined_path", "Path `" ++ path.text ++ "` is not defined",
        some ("Available names: " ++ String.intercalate ", " available)⟩
  | mismatch path expected found =>
      ⟨"gabarit::type_mismatch",
        "Expected " ++ expected.label ++ " at `" ++ path.text ++ "`, found " ++ found.label, none⟩

/-- The index that a segment spells: decimal digits, perhaps behind a plus sign. -/
def readIndex? (segment : String) : Option Nat :=
  let digits := match segment.toList with
    | '+' :: rest => rest
    | cs => cs
  if digits ≠ [] ∧ digits.all Char.isDigit then some (Nat.ofDigitChars 10 digits 0) else none

namespace Value

/-- The value one segment below: an entry of a mapping or an item of a sequence. -/
def child? (segment : String) : Value → Option Value
  | mapping written => Assoc.find? segment (Assoc.ofEntries written)
  | sequence items => (readIndex? segment).bind (items[·]?)
  | _ => none

/-- The value at the end of some segments. -/
def follow? (value : Value) : List String → Option Value
  | [] => some value
  | segment :: rest => (value.child? segment).bind (·.follow? rest)

end Value

/-- The root of the data and the local names on top of it. -/
structure Scope where
  root : Value
  locals : Dictionary Value

namespace Scope

/-- The scope of the data alone. -/
def ofRoot (root : Value) : Scope := ⟨root, .empty⟩

/-- A root with local names; the last value given to a name wins. -/
def withLocals (root : Value) (bindings : List (String × Value)) : Scope :=
  ⟨root, Dictionary.empty.insertAll bindings⟩

/-- The scope inside: bindings on top of the present ones, later over earlier. -/
def derive (scope : Scope) (bindings : List (String × Value)) : Scope :=
  { scope with locals := scope.locals.insertAll bindings }

/-- The entries of the root, if it is a mapping. -/
def rootFields (scope : Scope) : Assoc Value := scope.root.fields?.getD []

/-- What a name stands for: a local, or else an entry of the root. -/
def top? (scope : Scope) (name : String) : Option Value :=
  match scope.locals.find? name with
  | some value => some value
  | none => Assoc.find? name scope.rootFields

/-- The names in scope: locals in order, then the keys of the root that no local hides. -/
def available (scope : Scope) : List String :=
  scope.locals.names
    ++ (Assoc.names scope.rootFields).filter fun key => (scope.locals.find? key).isNone

/-- The value a path leads to. -/
def find? (scope : Scope) (path : Path) : Option Value :=
  (scope.top? path.head).bind (·.follow? path.tail)

/-! ## Using a path -/

/-- **The value a path leads to**, or the names that were in scope. -/
def lookup (scope : Scope) (path : Path) : Except PathError Value :=
  match scope.find? path with
  | some value => .ok value
  | none => .error (.undefined path scope.available)

/-- A view of the value at a path, or the shape that the view needs. -/
def view {α : Type} (scope : Scope) (path : Path) (expected : Shape) (read : Value → Option α) :
    Except PathError α :=
  match scope.lookup path with
  | .error e => .error e
  | .ok value =>
      match read value with
      | some a => .ok a
      | none => .error (.mismatch path expected value.kind)

/-- The value at a path as a condition. -/
def truth (scope : Scope) (path : Path) : Except PathError Bool :=
  (scope.lookup path).map Value.truthy

/-- The scalar at a path as a number. -/
def double (scope : Scope) (path : Path) : Except PathError Double :=
  scope.view path .scalar Value.toDouble?

/-- The scalar at a path as a text. -/
def string (scope : Scope) (path : Path) : Except PathError String :=
  scope.view path .scalar Value.text?

/-- The items of the sequence, or the values of the mapping, at a path. -/
def items (scope : Scope) (path : Path) : Except PathError (List Value) :=
  scope.view path .sequenceOrMapping fun value =>
    match value.items? with
    | some items => some items
    | none => value.fields?.map (·.map Prod.snd)

/-- The entries of the mapping at a path. -/
def entries (scope : Scope) (path : Path) : Except PathError (Assoc Value) :=
  scope.view path .mapping Value.fields?

end Scope

end Stencil
