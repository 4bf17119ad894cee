/-!
# Notice — what is reported while a template is compiled and rendered

A notice is a message with named fields, in the order in which things happen.
-/

namespace Stencil

/-- A message with named fields. -/
structure Notice where
  message : String
  fields : List (String × String)
deriving DecidableEq

/-- A count as the text of a field. -/
def countText (n : Nat) : String := String.ofList (Nat.toDigits 10 n)

/-- A truth value as the text of a field. -/
def flagText (b : Bool) : String := if b then "true" else "false"

end Stencil
