import Stencil.Html.Fragment
import Stencil.Html.Writer
import Stencil.Render.Entry

/-!
# Render/Template — the ways to render a template

Its items on demand, its nodes put into a parent, and its text as HTML.  The last two stop at the
first error; what was put in before it stays.
-/

namespace Stencil

namespace Template

variable {N : Type} [Host N]

/-- **The rendering of a template.** -/
def render (template : Template N) (scope : Scope) : Rendering N :=
  Entry.renderAll scope template.entries

/-- The steps taken when a number of items is asked for; asking for none begins nothing. -/
def pull (template : Template N) (scope : Scope) : Nat → List (Step N)
  | 0 => []
  | n + 1 => (template.render scope).pull (n + 1)

/-- Put the nodes of a rendering behind a parent's children, up to the first error. -/
def attachAll (parent : N) : Rendering N → N × Except RenderError Unit
  | .done => (parent, .ok ())
  | .decision _ rest => attachAll parent (rest ())
  | .item (.ok node) rest => attachAll (Host.append parent node) (rest ())
  | .item (.error e) _ => (parent, .error e)

/-- **Render into a parent**: the parent afterwards, and whether all went well. -/
def renderInto (template : Template N) (parent : N) (scope : Scope) : N × Except RenderError Unit :=
  attachAll parent (template.render scope)

/-- The decisions taken by a rendering that stops at its first error. -/
def decisionsToEnd (template : Template N) (scope : Scope) : List Decision :=
  (template.render scope).collect.decisions

/-- Compile a fragment of HTML, read by a parser. -/
def ofHtml (parser : Html.Parser) (options : Options) (html : String) :
    Except TemplateError (Template Node) :=
  compile options (Html.read parser html)

/-- **Render as HTML.** -/
def renderHtml (template : Template Node) (scope : Scope) : Except RenderError String :=
  (template.render scope).collect.outcome.map Html.ofNodes

/-- Render as HTML with a root mapping made of names and values. -/
def renderWith (template : Template Node) (data : List (String × Value)) :
    Except RenderError String :=
  template.renderHtml (.ofRoot (.mapping data))

end Template

end Stencil
