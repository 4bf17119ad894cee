import Stencil.Number.Decimal
import Stencil.Text.Blank

/-!
# Number/Lenient — any text as a number

Data and literals are compared as numbers where they can be.  White space around a numeral does not
count, an empty text is zero, the infinities have one spelling each, and everything else is `nan`.

The reader behind it also knows words, in any letter case.  All of them have a letter that no numeral
has, and a text with such a letter is not given to it.
-/

namespace Stencil

namespace Double

/-- Whether a character is a letter that no numeral has. -/
def isForeign (c : Char) : Bool := c.isAlpha && c != 'e' && c != 'E'

/-- The words for what no numeral names, in any letter case. -/
def isWord (cs : List Char) : Bool :=
  ["inf".toList, "infinity".toList, "nan".toList].contains (cs.map Char.toLower)

/-- **A reader that also knows words**: numerals, and with a sign or none `inf` and `infinity` for an
infinity and `nan` for `nan`, in any letter case. -/
def readGenerous? (cs : List Char) : Option Double :=
  let (negative, word) := Decimal.splitSign cs
  if isWord word then some (if word.map Char.toLower = "nan".toList then nan else .infinity negative)
  else read? cs

/-- The number that trimmed characters spell. -/
def ofTrimmed (cs : List Char) : Double :=
  if cs = [] then .finite (.zero false)
  else if cs = "Infinity".toList ∨ cs = "+Infinity".toList then .infinity false
  else if cs = "-Infinity".toList then .infinity true
  else if cs.any isForeign then nan
  else (readGenerous? cs).getD nan

/-- **The number a text spells**, `nan` if it spells none. -/
def ofText (s : String) : Double := ofTrimmed (Text.trim s.toList)

/-- The number a text spells, if it spells one; a blank text does not. -/
def spelled? (s : String) : Option Double :=
  if Text.blank s then none
  else match ofText s with
    | nan => none
    | x => some x

end Double

end Stencil
