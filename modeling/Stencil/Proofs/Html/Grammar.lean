import Stencil.Html.Fragment
import Stencil.Html.Writer
import Stencil.Number.Hexadecimal

/-!
# Proofs/Html/Grammar — plain fragments of HTML

What a parser of HTML makes of a text is long to tell in full; most of it is about repairs.  `Spelled` tells
what plain fragments spell, where nothing is to be repaired: elements with their end tags, void ones without,
quoted attribute values, references to a character by its name or its number, and scripts and styles with a
text as it is.

Which elements may stand where depends on the parser and is left open (`Dialect`): a row outside of a table,
a paragraph in a paragraph or a title may come out elsewhere, or with something else in it.  A `Parser` is
assumed to do no more than to read plain fragments of its dialect as they are spelled (`Parser.Reads`).
-/

namespace Stencil.Html

/-! ## Characters -/

/-- Whether a character may stand in a plain name: small letters, digits, hyphens, and whatever is
beyond ASCII. -/
def isNameChar (c : Char) : Bool := c.isLower || c.isDigit || c = '-' || 128 ≤ c.toNat

/-- A name in lower case that begins with a letter. -/
def PlainName (name : String) : Prop :=
  name.toList.head?.any Char.isLower = true ∧ ∀ c ∈ name.toList, isNameChar c = true

instance (name : String) : Decidable (PlainName name) :=
  haveI : Decidable (∀ c ∈ name.toList, isNameChar c = true) := List.decidableBAll _ _
  instDecidableAnd

/-- A character that stands for itself up to the character that ends a text. -/
structure Inert (ending c : Char) : Prop where
  ne_ending : c ≠ ending
  ne_ampersand : c ≠ '&'
  ne_return : c ≠ '\r'
  ne_null : c ≠ '\x00'

/-- A character whose number refers to it: one that can be seen, or one beyond those that old pages used
for others. -/
def Referable (c : Char) : Prop := 32 ≤ c.toNat ∧ c.toNat ≤ 126 ∨ 160 ≤ c.toNat

/-- What is written for a character: the character, or a reference with its semicolon. -/
inductive SpelledChar (ending : Char) : List Char → Char → Prop
  | self {c : Char} (h : Inert ending c) : SpelledChar ending [c] c
  | named {name : List Char} {c : Char} (h : (name, c) ∈ namedChars) :
      SpelledChar ending ('&' :: (name ++ [';'])) c
  | decimal {digits : List Char} {c : Char} (nonempty : digits ≠ [])
      (isDigit : ∀ d ∈ digits, d.isDigit = true) (number : Nat.ofDigitChars 10 digits 0 = c.toNat)
      (kept : Referable c) : SpelledChar ending ('&' :: '#' :: (digits ++ [';'])) c
  | hexadecimal {digits : List Char} {c : Char} (nonempty : digits ≠ [])
      (number : Hexadecimal.number? 0 digits = some c.toNat) (kept : Referable c) :
      SpelledChar ending ('&' :: '#' :: 'x' :: (digits ++ [';'])) c

/-- What is written for a text. -/
inductive SpelledText (ending : Char) : List Char → List Char → Prop
  | nil : SpelledText ending [] []
  | cons {cs rest content : List Char} {c : Char} (first : SpelledChar ending cs c)
      (behind : SpelledText ending rest content) : SpelledText ending (cs ++ rest) (c :: content)

/-! ## Tags -/

/-- What is written for an attribute: its name and its value in quotes of either kind. -/
inductive SpelledAttribute : List Char → String × String → Prop
  | mk {quote : Char} {name value : String} {cs : List Char} (quotes : quote = '"' ∨ quote = '\x27')
      (plain : PlainName name) (spells : SpelledText quote cs value.toList) :
      SpelledAttribute (' ' :: (name.toList ++ '=' :: quote :: (cs ++ [quote]))) (name, value)

/-- What is written for attributes. -/
inductive SpelledAttributes : List Char → Assoc String → Prop
  | nil : SpelledAttributes [] []
  | cons {cs rest : List Char} {entry : String × String} {others : Assoc String}
      (first : SpelledAttribute cs entry) (behind : SpelledAttributes rest others) :
      SpelledAttributes (cs ++ rest) (entry :: others)

/-- A start tag whose attributes have distinct names. -/
inductive SpelledStart (tag : String) (attributes : Assoc String) : List Char → Prop
  | mk {cs : List Char} (plain : PlainName tag) (entries : SpelledAttributes cs attributes)
      (distinct : (Assoc.names attributes).Nodup) :
      SpelledStart tag attributes ('<' :: (tag.toList ++ (cs ++ ['>'])))

/-! ## Fragments -/

/-- What a parser leaves where it is written. -/
structure Dialect where
  /-- Whether an element of a tag stays where it is written and holds what is written in it; the tags of
  the elements around it come innermost first. -/
  element : (around : List String) → (tag : String) → Prop
  /-- Whether texts do. -/
  text : (around : List String) → Prop
  /-- Whether the parser begins anew behind an element of a tag. -/
  resumes : (tag : String) → Bool

/-- Whether some parts begin with a text. -/
def Parsed.beginsWithText : List Parsed → Bool
  | .text _ :: _ => true
  | _ => false

/-- What a script or a style may hold: at most one text, without `<`. -/
inductive SpelledRaw : List Char → List Parsed → Prop
  | empty : SpelledRaw [] []
  | text {content : String} (nonempty : content ≠ "")
      (chars : ∀ c ∈ content.toList, c ≠ '<' ∧ c ≠ '\r' ∧ c ≠ '\x00') :
      SpelledRaw content.toList [.text content]

/-- **What plain fragments spell.**  Where the parser begins anew, a mark of the byte order is no part of a
text. -/
inductive Spelled (d : Dialect) : (around : List String) → (anew : Bool) → List Char → List Parsed → Prop
  | nil {around anew} : Spelled d around anew [] []
  | mark {around cs parts} (behind : Spelled d around false cs parts) :
      Spelled d around true ('\ufeff' :: cs) parts
  | text {around anew cs rest parts} {content : String} (stays : d.text around)
      (spells : SpelledText '<' cs content.toList) (nonempty : content ≠ "")
      (unmarked : anew = true → cs.head? ≠ some '\ufeff')
      (apart : Parsed.beginsWithText parts = false) (behind : Spelled d around false rest parts) :
      Spelled d around anew (cs ++ rest) (.text content :: parts)
  | void {around anew tag attributes cs rest parts} (stays : d.element around tag)
      (kind : tag ∈ voidTags) (start : SpelledStart tag attributes cs)
      (behind : Spelled d around (d.resumes tag) rest parts) :
      Spelled d around anew (cs ++ rest) (.element tag attributes [] :: parts)
  | raw {around anew tag attributes cs inner rest children parts} (stays : d.element around tag)
      (kind : tag ∈ rawTags) (start : SpelledStart tag attributes cs)
      (below : SpelledRaw inner children) (behind : Spelled d around (d.resumes tag) rest parts) :
      Spelled d around anew (cs ++ (inner ++ (writeEnd tag ++ rest)))
        (.element tag attributes children :: parts)
  | element {around anew tag attributes cs inner rest children parts} (stays : d.element around tag)
      (kind : tag ∉ voidTags ++ rawTags) (start : SpelledStart tag attributes cs)
      (below : Spelled d (tag :: around) false inner children)
      (behind : Spelled d around (d.resumes tag) rest parts) :
      Spelled d around anew (cs ++ (inner ++ (writeEnd tag ++ rest)))
        (.element tag attributes children :: parts)

/-- **A parser that reads the plain fragments of a dialect as they are spelled.** -/
structure Parser.Reads (parser : Parser) (d : Dialect) : Prop where
  spelled : ∀ {cs : List Char} {parts : List Parsed}, Spelled d [] true cs parts →
    parser (String.ofList cs) = parts

end Stencil.Html
