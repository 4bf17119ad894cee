import Stencil.Assoc
import Stencil.Value.Number
import Stencil.Value.Moment
import Stencil.Text.Quoted

/-!
# Value/Basic — the data a template is rendered with

A value is a scalar, a sequence of values or a mapping from names to values.  A mapping is kept as it
was written; `Value.fields?` is what it means, with each name once.
-/

namespace Stencil

/-- A name, with the namespace it belongs to if it has one. -/
structure QualifiedName where
  space? : Option String
  name : String
deriving DecidableEq

/-- The debug text of a name: the name between quotes, behind its namespace between quotes and braces. -/
def QualifiedName.text (q : QualifiedName) : String :=
  match q.space? with
  | none => Text.quoted q.name
  | some space => "\x7b" ++ Text.quoted space ++ "\x7d" ++ Text.quoted q.name

/-- A value of the data. -/
inductive Value where
  | null
  | bool (b : Bool)
  | number (n : Number)
  | string (s : String)
  | bytes (bytes : List UInt8)
  | moment (m : Moment)
  | name (q : QualifiedName)
  | uuid (bits : BitVec 128)
  | sequence (items : List Value)
  | mapping (written : List (String × Value))

/-- What sort of value it is. -/
inductive Kind where
  | null | bool | number | string | bytes | moment | name | uuid | sequence | mapping
deriving DecidableEq

/-- The word for a kind. -/
def Kind.label : Kind → String
  | null => "null"
  | bool => "bool"
  | number => "number"
  | string => "string"
  | bytes => "bytes"
  | moment => "datetime"
  | name => "qname"
  | uuid => "uuid"
  | sequence => "sequence"
  | mapping => "mapping"

namespace Value

/-- The kind of a value. -/
def kind : Value → Kind
  | null => .null
  | bool _ => .bool
  | number _ => .number
  | string _ => .string
  | bytes _ => .bytes
  | moment _ => .moment
  | name _ => .name
  | uuid _ => .uuid
  | sequence _ => .sequence
  | mapping _ => .mapping

/-- The entries of a mapping, each name once: a repeated name keeps its first place and takes its
last value. -/
def fields? : Value → Option (Assoc Value)
  | mapping written => some (Assoc.ofEntries written)
  | _ => none

/-- The items of a sequence. -/
def items? : Value → Option (List Value)
  | sequence items => some items
  | _ => none

/-- A computed number as a value; what is not finite is no number and becomes null. -/
def ofDouble (x : Double) : Value :=
  match x.finite? with
  | some x => number (.float x)
  | none => null

end Value

end Stencil
