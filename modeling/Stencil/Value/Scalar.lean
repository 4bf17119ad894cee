import Stencil.Value.Basic
import Stencil.Number.Lenient

/-!
# Value/Scalar — values as conditions, numbers and texts

Every value is true or false as a condition.  Every value but a sequence and a mapping has a number
and a text; these are the scalars.

The values come from a library, and moments, qualified names and identifiers have no text of the
template's own: it takes the one that the library writes for debugging (`Value.debugText?`).  That
format is the library's to change.  Conditions rely on one property of it, that no such text spells a
number.
-/

namespace Stencil

/-- The debug text of an identifier: its digits in the groups `8-4-4-4-12`. -/
def uuidText (bits : BitVec 128) : String :=
  let digits := Nat.toDigits 16 bits.toNat
  let all := List.replicate (32 - digits.length) '0' ++ digits
  String.ofList (all.take 8 ++ '-' :: (all.drop 8).take 4 ++ '-' :: (all.drop 12).take 4
    ++ '-' :: (all.drop 16).take 4 ++ '-' :: all.drop 20)

namespace Value

/-- Whether a value counts as true: all do but null, false, zero and the empty text. -/
def truthy : Value → Bool
  | null => false
  | bool b => b
  | number n => n.toDouble.nonzero
  | string s => s ≠ ""
  | _ => true

/-- The number of a scalar. -/
def toDouble? : Value → Option Double
  | null => some (.ofInt 0)
  | bool b => some (.ofInt (if b then 1 else 0))
  | number n => some n.toDouble
  | string s => some (.ofText s)
  | sequence _ | mapping _ => none
  | _ => some .nan

/-- The text that the library of values writes for debugging, of the kinds it is asked for. -/
def debugText? : Value → Option String
  | moment m => some m.text
  | name q => some q.text
  | uuid bits => some (uuidText bits)
  | _ => none

/-- The text of a scalar. -/
def text? : Value → Option String
  | null => some "null"
  | bool b => some (if b then "true" else "false")
  | number n => some n.text
  | string s => some s
  | bytes b => some ("<bytes: " ++ String.ofList (Nat.toDigits 10 b.length) ++ " bytes>")
  | sequence _ | mapping _ => none
  | v => v.debugText?

/-- The number of a value that is a number or a text spelling one. -/
def numeric? : Value → Option Double
  | number n => some n.toDouble
  | string s => Double.spelled? s
  | _ => none

/-- Whether a value is null. -/
def isNull : Value → Bool
  | null => true
  | _ => false

end Value

end Stencil
