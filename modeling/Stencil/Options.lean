import Stencil.Placeholder

/-!
# Options — how a template is written

Directives are elements whose tag begins with a marker; what follows the marker names the directive.
With an empty marker there are no directives.
-/

namespace Stencil

/-- The marker of directive tags and the grammar of placeholders. -/
structure Options where
  marker : String
  placeholder : Placeholder

namespace Options

/-- Directives are marked by `gb-`, and placeholders have the default grammar. -/
def default : Options := ⟨"gb-", .default⟩

/-- Options with other settings than the default ones, where given. -/
def read (engine : Regex.Engine) (marker? pattern? : Option String) : Except PatternError Options :=
  let marker := marker?.getD default.marker
  match pattern? with
  | none => .ok ⟨marker, default.placeholder⟩
  | some text => (Placeholder.read engine text).map fun placeholder => ⟨marker, placeholder⟩

/-- The name behind the marker of a tag. -/
def directiveName? (options : Options) (tag : String) : Option String :=
  if options.marker = "" then none
  else (options.marker.toList.isPrefixOf? tag.toList).map String.ofList

end Options

end Stencil
