import Stencil.Text.Blank

/-!
# Path — names of places in the data

A path is kept as it was written.  Its segments lie between dots, and the white space around a
segment does not count.  There is always a first segment, which may be empty.
-/

namespace Stencil

/-- A path, as written. -/
structure Path where
  text : String
deriving DecidableEq

namespace Path

/-- The pieces between the separators: the first and the others. -/
def split (separator : Char) : List Char → List Char × List (List Char)
  | [] => ([], [])
  | c :: rest =>
      let (first, others) := split separator rest
      if c = separator then ([], first :: others) else (c :: first, others)

/-- A segment without the white space around it. -/
def segment (cs : List Char) : String := String.ofList (Text.trim cs)

/-- The first segment: the name that is looked up in the scope. -/
def head (p : Path) : String := segment (split '.' p.text.toList).1

/-- The segments after the first. -/
def tail (p : Path) : List String := (split '.' p.text.toList).2.map segment

end Path

end Stencil
