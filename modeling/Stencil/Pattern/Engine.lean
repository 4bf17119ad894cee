import Stencil.Pattern.Order
import Stencil.Pattern.Reader

/-!
# Pattern/Engine — what makes a pattern work

Which texts are patterns, and what a pattern matches, is for an engine to say.  Of what it makes of a pattern
only so much is relied on: its matches in a text stand in order and do not overlap.  `Pattern.engine` is an
engine for the written form of `Pattern.read?`.
-/

namespace Stencil

/-- A pattern at work: whether it has a group, and its matches in a text. -/
structure Regex where
  hasGroup : Bool
  occurrences : List Char → List Pattern.Match
  inOrder : ∀ cs, Pattern.InOrder cs.length 0 (occurrences cs)

namespace Regex

/-- An engine, by what it makes of a text that is a pattern. -/
abbrev Engine := String → Option Regex

/-- A pattern with the matches that are found by following threads. -/
def ofPattern (p : Pattern) : Regex where
  hasGroup := p.hasGroup
  occurrences := p.occurrences
  inOrder := Pattern.inOrder_occurrences p

end Regex

/-- **The engine that reads patterns and follows threads.** -/
def Pattern.engine : Regex.Engine := fun text => (Pattern.read? text.toList).map .ofPattern

end Stencil
