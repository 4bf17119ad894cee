/-!
# Assoc — named entries in the order they were written

Attributes of an element and the entries of a mapping are lists of name–value pairs whose order is
shown.  Reading takes the first entry of a name, writing keeps the place of a name that is there and
puts a new one last, erasing removes one entry.  `ofEntries` makes the names distinct.
-/

namespace Stencil

/-- Name–value pairs in written order. -/
abbrev Assoc (α : Type) := List (String × α)

namespace Assoc

variable {α : Type}

/-- The names, in order and with repetitions. -/
def names (entries : Assoc α) : List String := entries.map Prod.fst

/-- The value of the first entry called `name`. -/
def find? (name : String) : Assoc α → Option α
  | [] => none
  | (key, value) :: rest => if key = name then some value else find? name rest

/-- Overwrite the first entry called `name`, or write a new one at the end. -/
def put (name : String) (value : α) : Assoc α → Assoc α
  | [] => [(name, value)]
  | (key, old) :: rest =>
      if key = name then (key, value) :: rest else (key, old) :: put name value rest

/-- Remove the first entry called `name`. -/
def erase (name : String) : Assoc α → Assoc α
  | [] => []
  | (key, value) :: rest => if key = name then rest else (key, value) :: erase name rest

/-- Entries written one after another: a repeated name keeps its first place and takes the last
value. -/
def ofEntries (entries : Assoc α) : Assoc α :=
  entries.foldl (fun written entry => put entry.1 entry.2 written) []

end Assoc

end Stencil
