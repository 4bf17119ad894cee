import Stencil.Text.Word

/-!
# Pattern/Basic — patterns over characters

A pattern is built from single characters by sequence, choice and repetition, in order of
preference.  Parts of it may be groups, which are numbered from one in the order in which they are
opened: what the first group last matched is what a match reports.  A pattern may also ask for an edge, which
is no character but a place between two.
-/

namespace Stencil

/-- A class of characters. -/
inductive CharClass where
  | none
  | range (first last : Char)
  | blank
  | word
  | digit
  | not (cls : CharClass)
  | or (first second : CharClass)
  | and (first second : CharClass)
deriving DecidableEq

namespace CharClass

/-- Whether a class holds a character. -/
def holds : CharClass → Char → Bool
  | none, _ => false
  | range first last, c => first ≤ c && c ≤ last
  | blank, c => Text.isBlank c
  | word, c => Text.isWordChar c
  | digit, c => Text.isDecimalDigit c
  | not cls, c => !cls.holds c
  | or first second, c => first.holds c || second.holds c
  | and first second, c => first.holds c && second.holds c

/-- The class of one character. -/
def only (c : Char) : CharClass := range c c

/-- Every character. -/
def all : CharClass := not none

/-- Every character but one. -/
def except (c : Char) : CharClass := not (only c)

/-- The characters of two classes; nothing is added to no characters. -/
def join : CharClass → CharClass → CharClass
  | none, cls => cls
  | first, second => or first second

/-- The characters of some ranges. -/
def ofRanges (ranges : List (Char × Char)) : CharClass :=
  ranges.foldl (fun cls bounds => cls.join (range bounds.1 bounds.2)) none

/-- The characters of the first class that the second does not have. -/
def without (first second : CharClass) : CharClass := and first (not second)

/-- The characters that exactly one of two classes has. -/
def either (first second : CharClass) : CharClass :=
  or (without first second) (without second first)

end CharClass

/-- A place between two characters of a text: where it is, and the characters on its two sides, if there
are any. -/
structure Gap where
  position : Nat
  before? : Option Char
  after? : Option Char

/-- A kind of place. -/
inductive Edge where
  | start
  | stop
  /-- Where a word begins or ends. -/
  | word
  /-- Where none does. -/
  | noWord
deriving DecidableEq

/-- Whether a place is of a kind. -/
def Edge.holds (gap : Gap) : Edge → Bool
  | start => gap.before?.isNone
  | stop => gap.after?.isNone
  | word => gap.before?.any Text.isWordChar != gap.after?.any Text.isWordChar
  | noWord => gap.before?.any Text.isWordChar == gap.after?.any Text.isWordChar

/-- A pattern.  `greedy` says that one more round, or any round at all, is tried first. -/
inductive Pattern where
  | empty
  | one (cls : CharClass)
  | edge (edge : Edge)
  | seq (first second : Pattern)
  | alt (first second : Pattern)
  | group (number : Nat) (body : Pattern)
  | option (body : Pattern) (greedy : Bool)
  | star (body : Pattern) (greedy : Bool)
  | plus (body : Pattern) (greedy : Bool)
deriving DecidableEq

namespace Pattern

/-- How many patterns a pattern is built from. -/
def size : Pattern → Nat
  | empty => 1
  | one _ => 1
  | edge _ => 1
  | seq p q => p.size + q.size + 1
  | alt p q => p.size + q.size + 1
  | group _ p => p.size + 1
  | option p _ => p.size + 1
  | star p _ => p.size + 1
  | plus p _ => p.size + 1

/-- Whether a pattern can match without consuming anything. -/
def nullable : Pattern → Bool
  | empty => true
  | one _ => false
  | edge _ => true
  | seq p q => p.nullable && q.nullable
  | alt p q => p.nullable || q.nullable
  | group _ p => p.nullable
  | option _ _ => true
  | star _ _ => true
  | plus p _ => p.nullable

/-- Whether a pattern contains a group. -/
def hasGroup : Pattern → Bool
  | empty => false
  | one _ => false
  | edge _ => false
  | seq p q => p.hasGroup || q.hasGroup
  | alt p q => p.hasGroup || q.hasGroup
  | group _ _ => true
  | option p _ => p.hasGroup
  | star p _ => p.hasGroup
  | plus p _ => p.hasGroup

/-! ## Sequences and choices -/

/-- The patterns that a pattern is the sequence of. -/
def parts : Pattern → List Pattern
  | empty => []
  | seq p q => p.parts ++ q.parts
  | p => [p]

/-- The sequence of several patterns. -/
def sequence : List Pattern → Pattern
  | [] => empty
  | [p] => p
  | p :: ps => seq p (sequence ps)

/-- The patterns that a pattern is the choice between. -/
def branches : Pattern → List Pattern
  | alt p q => p.branches ++ q.branches
  | p => [p]

/-- The choice between several patterns, in order of preference. -/
def choice : List Pattern → Pattern
  | [] => empty
  | [p] => p
  | p :: ps => alt p (choice ps)

/-- What two sequences have in common at their beginning. -/
def commonBeginning : List Pattern → List Pattern → List Pattern
  | p :: ps, q :: qs => if p = q then p :: commonBeginning ps qs else []
  | _, _ => []

/-- What all sequences have in common at their beginning, which is nothing if one of them is a single
pattern. -/
def sharedBeginning : List (List Pattern) → List Pattern
  | [] => []
  | first :: rest =>
      if (first :: rest).all (2 ≤ ·.length) then rest.foldl commonBeginning first else []

/-- **The choice between alternatives.**  A beginning that all of them share is matched once, in
front of the choice between what remains: with a beginning that can match in several ways, each of
these ways is tried with all that remains before the next way is. -/
def alternatives (ps : List Pattern) : Pattern :=
  let sequences := (ps.flatMap branches).map parts
  match sequences with
  | [] => empty
  | [ps] => sequence ps
  | _ =>
      let shared := sharedBeginning sequences
      sequence (shared ++ [choice (sequences.map fun ps => sequence (ps.drop shared.length))])

end Pattern

end Stencil
