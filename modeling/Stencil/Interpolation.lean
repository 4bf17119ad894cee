import Stencil.Placeholder
import Stencil.Scope

/-!
# Interpolation — a text with holes

A text that may hold placeholders is a list of holes, each with the literal text before it and the
path that fills it, and the literal text after the last.  Rendering fills the holes from left to
right; what is filled in is not looked at again.
-/

namespace Stencil

/-- Literal texts and the holes between them. -/
structure Interpolation where
  holes : List (String × Path)
  tail : String
deriving DecidableEq

namespace Interpolation

/-! ## From a text -/

/-- A literal and a hole in front. -/
def cons (literal : String) (path : Path) (text : Interpolation) : Interpolation :=
  ⟨(literal, path) :: text.holes, text.tail⟩

/-- The interpolation that matches make of a text, from a place on.  A match whose group took no part stays in
the literal. -/
def ofMatches (cs : List Char) : (place : Nat) → List Pattern.Match → Interpolation
  | place, [] => ⟨[], String.ofList (cs.drop place)⟩
  | place, m :: rest =>
      match m.captured? cs with
      | none => ofMatches cs place rest
      | some expression =>
          cons (String.ofList (Text.between cs place m.start)) ⟨String.ofList expression⟩
            (ofMatches cs m.stop rest)

/-- **Find the placeholders of a text.** -/
def ofText (placeholder : Placeholder) (raw : String) : Interpolation :=
  ofMatches raw.toList 0 (placeholder.occurrences raw.toList)

/-! ## What it consists of -/

/-- Whether there is a hole. -/
def isDynamic (text : Interpolation) : Bool := !text.holes.isEmpty

/-- The literal texts without the holes. -/
def skeleton (text : Interpolation) : String :=
  text.holes.foldr (fun hole rest => hole.1 ++ rest) text.tail

/-- The paths in the holes, in order. -/
def paths (text : Interpolation) : List Path := text.holes.map Prod.snd

/-- The holes, each with the number of bytes of literal text before it, of which `bytes` have passed. -/
def expressionsFrom (bytes : Nat) : List (String × Path) → List (Nat × Path)
  | [] => []
  | (literal, path) :: rest =>
      (bytes + literal.utf8ByteSize, path) :: expressionsFrom (bytes + literal.utf8ByteSize) rest

/-- The paths in the holes, each with its place in the skeleton, counted in bytes. -/
def expressions (text : Interpolation) : List (Nat × Path) := expressionsFrom 0 text.holes

/-- The text with its holes written in the default grammar. -/
def display (text : Interpolation) : String :=
  text.holes.foldr
    (fun hole rest => hole.1 ++ "\x7b\x7b" ++ hole.2.text ++ "\x7d\x7d" ++ rest) text.tail

/-! ## Rendering -/

/-- Fill some holes, with a text behind them. -/
def fill (scope : Scope) (tail : String) : List (String × Path) → Except PathError String
  | [] => .ok tail
  | (literal, path) :: rest =>
      match scope.string path with
      | .error e => .error e
      | .ok value => (fill scope tail rest).map fun filled => literal ++ value ++ filled

/-- **The text with every hole filled**, or the error of the first hole that cannot be. -/
def render (text : Interpolation) (scope : Scope) : Except PathError String :=
  fill scope text.tail text.holes

end Interpolation

end Stencil
