import Stencil.Assoc
import Stencil.Dictionary
import Stencil.Host
import Stencil.Html.Escape
import Stencil.Html.Fragment
import Stencil.Html.Reader
import Stencil.Html.Token
import Stencil.Html.Writer
import Stencil.Interpolation
import Stencil.Node.Basic
import Stencil.Node.Edit
import Stencil.Node.Sorted
import Stencil.Notice
import Stencil.Number.Decimal
import Stencil.Number.Double
import Stencil.Number.Hexadecimal
import Stencil.Number.Lenient
import Stencil.Number.Power
import Stencil.Number.Rounding
import Stencil.Number.Shortest
import Stencil.Options
import Stencil.Path
import Stencil.Pattern.Basic
import Stencil.Pattern.Bracket
import Stencil.Pattern.Engine
import Stencil.Pattern.Matching
import Stencil.Pattern.Order
import Stencil.Pattern.Reader
import Stencil.Pattern.Thread
import Stencil.Placeholder
import Stencil.Proofs.Assoc
import Stencil.Proofs.Assoc.Firsts
import Stencil.Proofs.Assoc.Places
import Stencil.Proofs.Condition.Conjunction
import Stencil.Proofs.Condition.Literals
import Stencil.Proofs.Dictionary
import Stencil.Proofs.Direct.Agreement
import Stencil.Proofs.Direct.Alike
import Stencil.Proofs.Direct.Basic
import Stencil.Proofs.Direct.Plain
import Stencil.Proofs.Direct.Repeated
import Stencil.Proofs.Direct.Simulation
import Stencil.Proofs.Entry.Along
import Stencil.Proofs.Entry.Counting
import Stencil.Proofs.Entry.Demand
import Stencil.Proofs.Entry.Element
import Stencil.Proofs.Entry.Evaluation
import Stencil.Proofs.Entry.Influence
import Stencil.Proofs.Entry.Inlining
import Stencil.Proofs.Entry.Interleaving
import Stencil.Proofs.Entry.Keys
import Stencil.Proofs.Entry.Nesting
import Stencil.Proofs.Entry.Output
import Stencil.Proofs.Entry.Parts
import Stencil.Proofs.Entry.Redirection
import Stencil.Proofs.Entry.Rounds
import Stencil.Proofs.Entry.Selection
import Stencil.Proofs.Entry.Settled
import Stencil.Proofs.Entry.Undefined
import Stencil.Proofs.Faithful
import Stencil.Proofs.Html.Decoding
import Stencil.Proofs.Html.Escaping
import Stencil.Proofs.Html.Grammar
import Stencil.Proofs.Html.Parsing
import Stencil.Proofs.Html.Plain
import Stencil.Proofs.Html.Reference
import Stencil.Proofs.Html.RoundTrip
import Stencil.Proofs.Html.Tokens
import Stencil.Proofs.Interpolation
import Stencil.Proofs.Interpolation.Braces
import Stencil.Proofs.Interpolation.Splicing
import Stencil.Proofs.Node.Edits
import Stencil.Proofs.Node.Sorted
import Stencil.Proofs.Node.Sound
import Stencil.Proofs.Number.Decimal
import Stencil.Proofs.Number.Lenient
import Stencil.Proofs.Number.Nearest
import Stencil.Proofs.Number.Numeral
import Stencil.Proofs.Number.Order
import Stencil.Proofs.Number.ReadBack
import Stencil.Proofs.Number.Rounding
import Stencil.Proofs.Number.Spelling
import Stencil.Proofs.Number.Words
import Stencil.Proofs.Output
import Stencil.Proofs.Pattern.Braces
import Stencil.Proofs.SameUpTo
import Stencil.Proofs.Scope
import Stencil.Proofs.Scope.Names
import Stencil.Proofs.Template.Acceptance
import Stencil.Proofs.Template.Alignment
import Stencil.Proofs.Template.Alike
import Stencil.Proofs.Template.Census
import Stencil.Proofs.Template.Checks
import Stencil.Proofs.Template.Collapse
import Stencil.Proofs.Template.Comments
import Stencil.Proofs.Template.Concatenation
import Stencil.Proofs.Template.Delivery
import Stencil.Proofs.Template.Detection
import Stencil.Proofs.Template.Exchange
import Stencil.Proofs.Template.Marker
import Stencil.Proofs.Template.Reading
import Stencil.Proofs.Template.Within
import Stencil.Proofs.Text.Bytes
import Stencil.Proofs.Value.Equality
import Stencil.Proofs.Value.OwnText
import Stencil.Proofs.Value.WholeNumbers
import Stencil.Proofs.Value.WholeText
import Stencil.Render.Condition
import Stencil.Render.Decision
import Stencil.Render.Entry
import Stencil.Render.Filling
import Stencil.Render.Rendering
import Stencil.Render.Rounds
import Stencil.Render.Step
import Stencil.Render.Template
import Stencil.Render.Traced
import Stencil.Report
import Stencil.Scope
import Stencil.Template.Directive
import Stencil.Template.Entry
import Stencil.Template.Progress
import Stencil.Template.Source
import Stencil.Template.Tally
import Stencil.Text.Blank
import Stencil.Text.Hidden
import Stencil.Text.Letter
import Stencil.Text.Quoted
import Stencil.Text.Word
import Stencil.Tree
import Stencil.Value.Basic
import Stencil.Value.Moment
import Stencil.Value.Number
import Stencil.Value.Scalar
import Stencil.Proofs.Html.Parsing
