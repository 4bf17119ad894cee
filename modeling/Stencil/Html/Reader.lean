import Stencil.Html.Fragment
import Stencil.Html.Token

/-!
# Html/Reader — a parser of well-formed fragments

Tokens become trees with a stack of open elements: a start tag opens one, its end tag closes it and
all that were left open inside.  Texts with nothing between them are one text; a comment between them keeps
them apart.

Elements stay where they are written.  So this is a parser for fragments in which every element is one that
may stand there: it moves nothing out of a table, closes no paragraph in front of another one, and takes no
tag for another.
-/

namespace Stencil.Html

/-- The elements that have no content. -/
def childlessTags : List String :=
  ["area", "base", "basefont", "bgsound", "br", "col", "embed", "hr", "img", "input", "keygen", "link",
   "meta", "param", "source", "track", "wbr"]

/-- The elements in which a line feed right behind the start tag does not count. -/
def leadingBreakTags : List String := ["pre", "listing", "textarea"]

/-- An element that is still open, with the children so far, the last one first. -/
structure OpenElement where
  tag : String
  attributes : Assoc String
  children : List Parsed

/-- The element once it is closed.  What a `template` holds is no part of the tree. -/
def OpenElement.closed (e : OpenElement) : Parsed :=
  .element e.tag e.attributes (if e.tag = "template" then [] else e.children.reverse)

/-- Children with a text behind them; it joins a text that stands last. -/
def addText (content : List Char) : List Parsed → List Parsed
  | .text before :: rest => .text (before ++ String.ofList content) :: rest
  | children => .text (String.ofList content) :: children

/-- The open elements, the innermost first, and the children so far at the top, the last one first. -/
structure Builder where
  stack : List OpenElement
  top : List Parsed

namespace Builder

/-- The children where the reader is, changed. -/
def change (b : Builder) (f : List Parsed → List Parsed) : Builder :=
  match b.stack with
  | [] => { b with top := f b.top }
  | e :: outer => { b with stack := { e with children := f e.children } :: outer }

/-- A part put where the reader is. -/
def push (b : Builder) (part : Parsed) : Builder := b.change (part :: ·)

/-- The innermost element closed. -/
def close (b : Builder) : Builder :=
  match b.stack with
  | [] => b
  | e :: outer => push { b with stack := outer } e.closed

/-- Elements closed up to and including one of the tag; none if there is no such element. -/
def closeTo (b : Builder) (tag : String) : Builder :=
  match b.stack.findIdx? (·.tag = tag) with
  | some n => Nat.repeat close (n + 1) b
  | none => b

/-- Whether a line feed would be the first thing behind a start tag that makes it not count. -/
def dropsBreak (b : Builder) : Bool :=
  match b.stack with
  | [] => false
  | e :: _ => e.children.isEmpty && decide (e.tag ∈ leadingBreakTags)

/-- A text read. -/
def text (b : Builder) (content : List Char) : Builder :=
  match content with
  | [] => b
  | c :: rest =>
      if c = '\n' ∧ b.dropsBreak then if rest = [] then b else b.change (addText rest)
      else b.change (addText content)

/-- One token read. -/
def read (b : Builder) : Token → Builder
  | .text content => b.text content
  | .start tag attributes =>
      if tag ∈ childlessTags then b.push (.element tag attributes [])
      else { b with stack := ⟨tag, attributes, []⟩ :: b.stack }
  | .stop tag => b.closeTo tag
  | .comment => b.push .remark

/-- The trees, with everything closed. -/
def finish (b : Builder) : List Parsed := (Nat.repeat close b.stack.length b).top.reverse

end Builder

/-- Line breaks of all kinds as line feeds. -/
def unifyBreaks : List Char → List Char
  | [] => []
  | '\r' :: '\n' :: rest => '\n' :: unifyBreaks rest
  | c :: rest => (if c = '\r' then '\n' else c) :: unifyBreaks rest

/-- A text without a mark of its byte order in front. -/
def withoutMark : List Char → List Char
  | [] => []
  | c :: rest => if c = '\ufeff' then rest else c :: rest

/-- **The parts of a fragment.** -/
def parse : Parser := fun html =>
  ((tokens (unifyBreaks (withoutMark html.toList))).foldl Builder.read ⟨[], []⟩).finish

end Stencil.Html
