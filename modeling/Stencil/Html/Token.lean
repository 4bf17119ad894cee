import Stencil.Assoc
import Stencil.Html.Escape

/-!
# Html/Token — the pieces of an HTML text

The characters of a fragment are read one by one; the state of the reader says what it is in the
middle of.  Finished pieces are texts, start tags, end tags and comments.  Names of tags and
attributes are lowercased, references in texts and attribute values are resolved, and of a repeated
attribute the first counts.

Some elements enclose their content: nothing but their own end tag is markup in it.
-/

namespace Stencil.Html

/-- A piece of HTML. -/
inductive Token where
  | text (content : List Char)
  | start (tag : String) (attributes : Assoc String)
  | stop (tag : String)
  | comment
deriving DecidableEq

/-- How a script stands to the comments in it.  Inside a comment a script may be begun and ended
again. -/
inductive ScriptPlace where
  | outside | comment | nested
deriving DecidableEq

/-- What the content of an element is. -/
inductive Content where
  /-- Texts and elements. -/
  | ordinary
  /-- A text in which references are resolved. -/
  | escaped
  /-- A text as it is. -/
  | raw
  /-- A script, at some place with respect to its comments. -/
  | script (place : ScriptPlace)
  /-- All the rest. -/
  | endless
deriving DecidableEq

/-- What the content of the elements of a tag is. -/
def contentOf (tag : String) : Content :=
  if tag ∈ ["title", "textarea"] then .escaped
  else if tag ∈ ["style", "xmp", "iframe", "noembed", "noframes", "noscript"] then .raw
  else if tag = "script" then .script .outside
  else if tag = "plaintext" then .endless
  else .ordinary

/-- A tag that is being read: whether it is an end tag, its name and the attributes so far. -/
structure OpenTag where
  stops : Bool
  name : List Char
  attributes : Assoc String
deriving DecidableEq

/-- What the reader is in the middle of.  Texts, names and values are what has been read of them, the
last character first. -/
inductive State where
  /-- A text. -/
  | content (text : List Char)
  /-- Behind `<`, after a text. -/
  | angle (text : List Char)
  /-- Behind `</`, after a text. -/
  | slash (text : List Char)
  /-- The name of a tag. -/
  | tagName (stops : Bool) (name : List Char)
  /-- Between the attributes of a tag. -/
  | between (tag : OpenTag)
  /-- The name of an attribute. -/
  | attributeName (tag : OpenTag) (name : List Char)
  /-- Behind the name of an attribute. -/
  | attributeSpace (tag : OpenTag) (name : List Char)
  /-- Behind the equals sign of an attribute. -/
  | valueStart (tag : OpenTag) (name : List Char)
  /-- In a value between quotes. -/
  | quoted (quote : Char) (tag : OpenTag) (name value : List Char)
  /-- In a value without quotes. -/
  | unquoted (tag : OpenTag) (name value : List Char)
  /-- Behind `<!`, and a hyphen if there was one. -/
  | declaration (hyphen : Bool)
  /-- In a comment. -/
  | comment (read : List Char)
  /-- In a declaration that is no comment. -/
  | declared (read : List Char)
  /-- The content of an element that encloses it. -/
  | enclosed (content : Content) (tag : List Char) (text : List Char)
deriving DecidableEq

/-! ## Parts of a tag -/

/-- A name in lower case. -/
def lower (name : List Char) : List Char := name.map Char.toLower

/-- Whether a character separates the parts of a tag. -/
def isSpace (c : Char) : Bool := c = ' ' || c = '\n' || c = '\t' || c = '\r' || c = '\x0c'

/-- Whether a character ends the name of a tag. -/
def endsTagName (c : Char) : Bool := isSpace c || c = '/' || c = '>'

/-- The character that stands for one that may not be there. -/
def shown (c : Char) : Char := if c = '\x00' then '\ufffd' else c

/-- A tag with one more attribute, unless it has one of that name. -/
def OpenTag.add (tag : OpenTag) (name value : List Char) : OpenTag :=
  let name := String.ofList (lower name.reverse)
  if name ∈ tag.attributes.names then tag
  else
    let value := String.ofList (decode .value value.reverse)
    { tag with attributes := tag.attributes ++ [(name, value)] }

/-- The end of a tag: its token, and what follows. -/
def OpenTag.finish (tag : OpenTag) : State × List Token :=
  let name := lower tag.name
  if tag.stops then (.content [], [.stop (String.ofList name)])
  else
    (match contentOf (String.ofList name) with
      | .ordinary => .content []
      | content => .enclosed content name [],
      [.start (String.ofList name) tag.attributes])

/-- A tag in which a character has been read that is no part of a name or value: a bracket ends the
tag. -/
def OpenTag.next (tag : OpenTag) (c : Char) : State × List Token :=
  if c = '>' then tag.finish else (.between tag, [])

/-! ## Texts -/

/-- A text as a token, unless it is empty. -/
def textToken (text : List Char) : List Token := if text = [] then [] else [.text text]

/-- A text that has been read, with its references resolved. -/
def flush (text : List Char) : List Token := textToken (decode .text text.reverse)

/-- Whether a text that has been read ends with some characters, in either case. -/
def endsWith (text ending : List Char) : Bool :=
  lower (text.take ending.length) = ending.reverse

/-- Whether a character, behind what has been read, ends an element that encloses its content. -/
def stopsAt (content : Content) (tag text : List Char) (c : Char) : Bool :=
  content ≠ .endless && content ≠ .script .nested && endsTagName c
    && endsWith text ('<' :: '/' :: tag)

/-- How a script goes on after a character. -/
def ScriptPlace.next (place : ScriptPlace) (text : List Char) (c : Char) : ScriptPlace :=
  match place with
  | outside => if endsWith (c :: text) "<!--".toList then comment else outside
  | comment =>
      if endsWith (c :: text) "-->".toList then outside
      else if endsTagName c ∧ endsWith text "<script".toList then nested
      else comment
  | nested =>
      if endsWith (c :: text) "-->".toList then outside
      else if endsTagName c ∧ endsWith text "</script".toList then comment
      else nested

/-- How the content of an element goes on after a character. -/
def Content.next (content : Content) (text : List Char) (c : Char) : Content :=
  match content with
  | script place => script (place.next text c)
  | other => other

/-- The token of enclosed content. -/
def Content.token (content : Content) (text : List Char) : List Token :=
  match content with
  | escaped => flush text
  | _ => textToken text.reverse

/-! ## Comments and declarations -/

/-- Whether a bracket ends the comment. -/
def endsComment : List Char → Bool
  | [] => true
  | ['-'] => true
  | '-' :: '-' :: _ => true
  | '!' :: '-' :: '-' :: _ => true
  | _ => false

/-- What a declaration leaves: nothing if it names the kind of the document, else it is a comment. -/
def declarationToken (read : List Char) : List Token :=
  if lower (read.reverse.take 7) = "doctype".toList then [] else [.comment]

/-! ## Reading -/

/-- **Read one character.** -/
def step : State → Char → State × List Token
  | .content text, c =>
      if c = '<' then (.angle text, [])
      else if c = '\x00' then (.content text, [])
      else (.content (c :: text), [])
  | .angle text, c =>
      if c.isAlpha then (.tagName false [c], flush text)
      else if c = '/' then (.slash text, [])
      else if c = '!' then (.declaration false, flush text)
      else if c = '?' then (.declared [c], flush text)
      else if c = '<' then (.angle ('<' :: text), [])
      else if c = '\x00' then (.content ('<' :: text), [])
      else (.content (c :: '<' :: text), [])
  | .slash text, c =>
      if c.isAlpha then (.tagName true [c], flush text)
      else if c = '>' then (.content text, [])
      else (.declared [c], flush text)
  | .tagName stops name, c =>
      if endsTagName c then OpenTag.next ⟨stops, name.reverse, []⟩ c
      else (.tagName stops (shown c :: name), [])
  | .between tag, c =>
      if endsTagName c then tag.next c else (.attributeName tag [shown c], [])
  | .attributeName tag name, c =>
      if c = '=' then (.valueStart tag name, [])
      else if isSpace c then (.attributeSpace tag name, [])
      else if endsTagName c then (tag.add name []).next c
      else (.attributeName tag (shown c :: name), [])
  | .attributeSpace tag name, c =>
      if c = '=' then (.valueStart tag name, [])
      else if isSpace c then (.attributeSpace tag name, [])
      else if endsTagName c then (tag.add name []).next c
      else (.attributeName (tag.add name []) [shown c], [])
  | .valueStart tag name, c =>
      if c = '"' ∨ c = '\x27' then (.quoted c tag name [], [])
      else if c = '>' then (tag.add name []).finish
      else if isSpace c then (.valueStart tag name, [])
      else (.unquoted tag name [shown c], [])
  | .quoted quote tag name value, c =>
      if c = quote then (.between (tag.add name value), [])
      else (.quoted quote tag name (shown c :: value), [])
  | .unquoted tag name value, c =>
      if isSpace c ∨ c = '>' then (tag.add name value).next c
      else (.unquoted tag name (shown c :: value), [])
  | .declaration hyphen, c =>
      if c = '-' then (if hyphen then .comment [] else .declaration true, [])
      else if c = '>' then (.content [], [.comment])
      else (.declared (if hyphen then [c, '-'] else [c]), [])
  | .comment read, c =>
      if c = '>' ∧ endsComment read then (.content [], [.comment])
      else (.comment (c :: read), [])
  | .declared read, c =>
      if c = '>' then (.content [], declarationToken read) else (.declared (c :: read), [])
  | .enclosed content tag text, c =>
      if stopsAt content tag text c then
        let stop := OpenTag.next ⟨true, tag, []⟩ c
        (stop.1, content.token (text.drop (tag.length + 2)) ++ stop.2)
      else (.enclosed (content.next text c) tag (shown c :: text), [])

/-- The tokens still due at the end of the text. -/
def State.finish : State → List Token
  | .content text => flush text
  | .angle text => flush ('<' :: text)
  | .slash text => flush ('/' :: '<' :: text)
  | .enclosed inside _ text => inside.token text
  | _ => []

/-- The tokens from a state on. -/
def tokensFrom : State → List Char → List Token
  | state, [] => state.finish
  | state, c :: rest => (step state c).2 ++ tokensFrom (step state c).1 rest

/-- **The tokens of a text.** -/
def tokens (cs : List Char) : List Token := tokensFrom (.content []) cs

end Stencil.Html
