import Stencil.Number.Hexadecimal

/-!
# Html/Escape — characters that need a reference

In a text the ampersand, the angle brackets and the no-break space are written as references, in an
attribute value the ampersand, the double quote and the no-break space.  `decode` resolves these
references and the numeric ones from left to right, with or without a semicolon; what was resolved is
not looked at again, and an ampersand that begins no reference stands for itself.
-/

namespace Stencil.Html

/-- Where a text is written. -/
inductive Setting where
  | text | value
deriving DecidableEq

/-- How a character is written. -/
def encodeChar (setting : Setting) (c : Char) : List Char :=
  if c = '&' then "&amp;".toList
  else if c = '\u00a0' then "&nbsp;".toList
  else match setting with
    | .text => if c = '<' then "&lt;".toList else if c = '>' then "&gt;".toList else [c]
    | .value => if c = '"' then "&quot;".toList else [c]

/-- **How a text is written.** -/
def encode (setting : Setting) (cs : List Char) : List Char := cs.flatMap (encodeChar setting)

/-! ## Reading -/

/-- What the numbers from 128 to 159 refer to: the characters that old pages meant by them. -/
def legacyChars : List Nat :=
  [0x20ac, 0x81, 0x201a, 0x0192, 0x201e, 0x2026, 0x2020, 0x2021,
   0x02c6, 0x2030, 0x0160, 0x2039, 0x0152, 0x8d, 0x017d, 0x8f,
   0x90, 0x2018, 0x2019, 0x201c, 0x201d, 0x2022, 0x2013, 0x2014,
   0x02dc, 0x2122, 0x0161, 0x203a, 0x0153, 0x9d, 0x017e, 0x0178]

/-- The character of a number; numbers of no character refer to the replacement character. -/
def numbered (n : Nat) : Char :=
  if n = 0 then '\ufffd'
  else if 128 ≤ n ∧ n < 160 then Char.ofNat (legacyChars.getD (n - 128) n)
  else if n.isValidChar then Char.ofNat n
  else '\ufffd'

/-- The references that go by a name. -/
def namedChars : List (List Char × Char) :=
  [("amp".toList, '&'), ("lt".toList, '<'), ("gt".toList, '>'), ("quot".toList, '"'),
   ("nbsp".toList, '\u00a0')]

/-- The size of a reference with the semicolon that may follow it. -/
def sizeWith (size : Nat) (rest : List Char) : Nat :=
  if rest.head? = some ';' then size + 1 else size

/-- The character that digits in front of a text refer to, and the size of the reference; `lead` is
the size of what stands before the digits. -/
def numeric? (lead : Nat) (isDigit : Char → Bool) (number? : List Char → Option Nat)
    (cs : List Char) : Option (Char × Nat) :=
  let digits := cs.takeWhile isDigit
  if digits = [] then none
  else (number? digits).map fun n =>
    (numbered n, sizeWith (lead + digits.length) (cs.drop digits.length))

/-- Whether a name without its semicolon is a reference in front of a text.  In a value it is none if
it may as well be the beginning of a parameter. -/
def endsName (setting : Setting) (rest : List Char) : Bool :=
  match setting, rest with
  | .value, c :: _ => c = ';' || !(c = '=' || c.isAlphanum)
  | _, _ => true

/-- The character that a reference stands for, behind its ampersand, and the size of the rest of
it. -/
def reference? (setting : Setting) : List Char → Option (Char × Nat)
  | '#' :: 'x' :: rest => numeric? 2 (Hexadecimal.digit? · |>.isSome) (Hexadecimal.number? 0) rest
  | '#' :: 'X' :: rest => numeric? 2 (Hexadecimal.digit? · |>.isSome) (Hexadecimal.number? 0) rest
  | '#' :: rest => numeric? 1 Char.isDigit (fun ds => some (Nat.ofDigitChars 10 ds 0)) rest
  | cs =>
      (namedChars.find? (·.1.isPrefixOf cs)).bind fun (name, c) =>
        let rest := cs.drop name.length
        if endsName setting rest then some (c, sizeWith name.length rest) else none

/-- Decode what follows; `skip` characters belong to the reference before. -/
def decodeFrom (setting : Setting) : (skip : Nat) → List Char → List Char
  | _, [] => []
  | skip + 1, _ :: rest => decodeFrom setting skip rest
  | 0, c :: rest =>
      if c = '&' then
        match reference? setting rest with
        | some (d, size) => d :: decodeFrom setting size rest
        | none => c :: decodeFrom setting 0 rest
      else c :: decodeFrom setting 0 rest

/-- **The text that was written.** -/
def decode (setting : Setting) (cs : List Char) : List Char := decodeFrom setting 0 cs

end Stencil.Html
