import Stencil.Pattern.Engine
import Stencil.Report

/-!
# Placeholder — how placeholders are written in a template

A placeholder grammar is a pattern with a group: a match of the pattern is a placeholder and the
group holds its expression.  The default grammar is two braces, the shortest run of any characters,
two braces.
-/

namespace Stencil

/-- Why a pattern cannot be used for placeholders. -/
inductive PatternError where
  /-- It is not a pattern. -/
  | malformed
  /-- It captures nothing. -/
  | noGroup (pattern : String)
deriving DecidableEq

/-- The wording of a pattern error. -/
def PatternError.report (e : PatternError) : Report :=
  ⟨"gabarit::invalid_pattern",
    match e with
    | malformed => "Invalid placeholder pattern"
    | noGroup pattern => "Invalid placeholder pattern: `" ++ pattern ++ "` has no capture group",
    some "The pattern must be a valid regex with one capture group for the expression"⟩

/-- A placeholder grammar, with the text it was written as. -/
structure Placeholder where
  text : String
  regex : Regex

namespace Placeholder

/-- The matches of a grammar in a text. -/
def occurrences (placeholder : Placeholder) (cs : List Char) : List Pattern.Match :=
  placeholder.regex.occurrences cs

/-- **Read a grammar**: a pattern that has a group. -/
def read (engine : Regex.Engine) (text : String) : Except PatternError Placeholder :=
  match engine text with
  | none => .error .malformed
  | some regex => if regex.hasGroup then .ok ⟨text, regex⟩ else .error (.noGroup text)

/-- Two braces, the shortest run of any characters, two braces. -/
def braces : Pattern :=
  .seq (.one (.only '\x7b')) <| .seq (.one (.only '\x7b')) <|
    .seq (.group 1 (.star (.one .all) false)) <|
    .seq (.one (.only '\x7d')) (.one (.only '\x7d'))

/-- The default grammar. -/
def default : Placeholder where
  text := "(?s)\\\x7b\\\x7b(.*?)\\\x7d\\\x7d"
  regex := .ofPattern braces

/-- The default grammar is what its text says. -/
theorem read?_default_text : Pattern.read? default.text.toList = some braces := by
  decide

end Placeholder

end Stencil
