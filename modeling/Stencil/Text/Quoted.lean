import Stencil.Text.Hidden

/-!
# Text/Quoted — a text between quotes

`quoted` shows a text between double quotes.  A quote and a backslash take a backslash in front,
tab, line feed, carriage return and NUL have their letters, and every character that cannot be seen
on its own is written by its code point.
-/

namespace Stencil

namespace Text

/-- The hexadecimal digits of a code point, between braces. -/
def codePoint (c : Char) : List Char :=
  ['\\', 'u', '\x7b'] ++ Nat.toDigits 16 c.toNat ++ ['\x7d']

/-- One character as it stands between quotes. -/
def quotedChar (c : Char) : List Char :=
  if c = '"' ∨ c = '\\' then ['\\', c]
  else if c = '\t' then ['\\', 't']
  else if c = '\n' then ['\\', 'n']
  else if c = '\r' then ['\\', 'r']
  else if c.toNat = 0 then ['\\', '0']
  else if isHidden c then codePoint c
  else [c]

/-- **A text between quotes.** -/
def quoted (s : String) : String :=
  String.ofList ('"' :: (s.toList.flatMap quotedChar ++ ['"']))

end Text

end Stencil
