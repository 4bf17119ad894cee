import Stencil.Number.Hexadecimal
import Stencil.Pattern.Basic

/-!
# Pattern/Bracket — the written form of classes

A class is written in square brackets: single characters, ranges, escapes, named classes such as
`[:alpha:]` and further classes in brackets, one after another.  `&&`, `--` and `~~` stand for what
both sides have, what only the left has and what exactly one of them has; they bind to the left and
more loosely than juxtaposition.  A caret behind the bracket takes the complement of the whole.
-/

namespace Stencil

namespace Pattern

/-! ## Escapes -/

/-- The character that a number in base sixteen stands for. -/
def ofCode? (digits : List Char) : Option CharClass :=
  if digits = [] then none
  else
    (Hexadecimal.number? 0 digits).bind fun n =>
      if n.isValidChar then some (.only (Char.ofNat n)) else none

/-- A number in base sixteen, in braces or of a fixed width, and what follows it. -/
def readCode? (width : Nat) : List Char → Option (CharClass × List Char)
  | '\x7b' :: rest =>
      match rest.dropWhile (· ≠ '\x7d') with
      | _ :: after => (ofCode? (rest.takeWhile (· ≠ '\x7d'))).map (·, after)
      | [] => none
  | cs =>
      if cs.length < width then none else (ofCode? (cs.take width)).map (·, cs.drop width)

/-- What a character behind a backslash stands for: a class, a control character, a character given
by its number, or itself if it is punctuation. -/
def readEscape? : List Char → Option (CharClass × List Char)
  | [] => none
  | c :: rest =>
      if c = 'w' then some (.word, rest)
      else if c = 'W' then some (.not .word, rest)
      else if c = 's' then some (.blank, rest)
      else if c = 'S' then some (.not .blank, rest)
      else if c = 'd' then some (.digit, rest)
      else if c = 'D' then some (.not .digit, rest)
      else if c = 'n' then some (.only '\n', rest)
      else if c = 't' then some (.only '\t', rest)
      else if c = 'r' then some (.only '\r', rest)
      else if c = 'f' then some (.only '\x0c', rest)
      else if c = 'v' then some (.only '\x0b', rest)
      else if c = 'a' then some (.only '\x07', rest)
      else if c = 'x' then readCode? 2 rest
      else if c = 'u' then readCode? 4 rest
      else if c = 'U' then readCode? 8 rest
      else if c.toNat < 128 ∧ !c.isAlphanum ∧ c ≠ '<' ∧ c ≠ '>' then some (.only c, rest)
      else none

/-! ## Classes -/

/-- The classes that have a name, with their ranges. -/
def namedRanges : List (String × List (Char × Char)) :=
  [("alnum", [('0', '9'), ('A', 'Z'), ('a', 'z')]),
   ("alpha", [('A', 'Z'), ('a', 'z')]),
   ("ascii", [('\x00', '\x7f')]),
   ("blank", [('\t', '\t'), (' ', ' ')]),
   ("cntrl", [('\x00', '\x1f'), ('\x7f', '\x7f')]),
   ("digit", [('0', '9')]),
   ("graph", [('!', '~')]),
   ("lower", [('a', 'z')]),
   ("print", [(' ', '~')]),
   ("punct", [('!', '/'), (':', '@'), ('[', '\x60'), ('\x7b', '~')]),
   ("space", [('\t', '\r'), (' ', ' ')]),
   ("upper", [('A', 'Z')]),
   ("word", [('0', '9'), ('A', 'Z'), ('_', '_'), ('a', 'z')]),
   ("xdigit", [('0', '9'), ('A', 'F'), ('a', 'f')])]

/-- A caret in front of a class, and what follows. -/
def readCaret : List Char → Bool × List Char
  | '^' :: rest => (true, rest)
  | cs => (false, cs)

/-- A class or its complement. -/
def complementIf (negated : Bool) (cls : CharClass) : CharClass := if negated then .not cls else cls

/-- A class given by its name between colons, behind its opening bracket, and what follows it. -/
def readNamed? : List Char → Option (CharClass × List Char)
  | ':' :: rest =>
      let (negated, rest) := readCaret rest
      match rest.dropWhile (· ≠ ':') with
      | ':' :: ']' :: after =>
          (namedRanges.find? (·.1.toList = rest.takeWhile (· ≠ ':'))).map fun entry =>
            (complementIf negated (.ofRanges entry.2), after)
      | _ => none
  | _ => none

/-- One end of a range, or a class that an escape stands for, and what follows it. -/
def readBound? : List Char → Option (CharClass × List Char)
  | [] => none
  | '\\' :: rest => readEscape? rest
  | c :: rest => some (.only c, rest)

/-- The range between two single characters in order. -/
def rangeBetween? : CharClass → CharClass → Option CharClass
  | .range a a', .range b b' => if a = a' ∧ b = b' ∧ a ≤ b then some (.range a b) else none
  | _, _ => none

/-- A range or a single item of a class, and what follows it.  A hyphen makes a range unless the
class ends behind it or a second hyphen follows. -/
def readRange? (cs : List Char) : Option (CharClass × List Char) :=
  (readBound? cs).bind fun (first, rest) =>
    match rest with
    | '-' :: ']' :: _ => some (first, rest)
    | '-' :: '-' :: _ => some (first, rest)
    | '-' :: upper =>
        (readBound? upper).bind fun (last, rest) => (rangeBetween? first last).map (·, rest)
    | _ => some (first, rest)

/-- What stands at the beginning of a class: hyphens, or else a closing bracket, stand for
themselves there.  The rest follows. -/
def readFirst (cs : List Char) : CharClass × List Char :=
  match cs.takeWhile (· = '-'), cs.dropWhile (· = '-') with
  | [], ']' :: rest => (.only ']', rest)
  | [], rest => (.none, rest)
  | _, rest => (.only '-', rest)

/-- The items of a class up to its closing bracket, and what follows it.  `operand` is what has been
read since the last operator, and `combine` says what the class is, given the operand in full. -/
def readItems? : (fuel : Nat) → (combine : CharClass → CharClass) → (operand : CharClass) →
    List Char → Option (CharClass × List Char)
  | 0, _, _, _ => none
  | fuel + 1, combine, operand, cs =>
      match cs with
      | [] => none
      | ']' :: rest => some (combine operand, rest)
      | '&' :: '&' :: rest => readItems? fuel (combine operand).and .none rest
      | '-' :: '-' :: rest => readItems? fuel (combine operand).without .none rest
      | '~' :: '~' :: rest => readItems? fuel (combine operand).either .none rest
      | '[' :: rest =>
          match readNamed? rest with
          | some (cls, rest) => readItems? fuel combine (operand.join cls) rest
          | none =>
              let (negated, rest) := readCaret rest
              let (first, rest) := readFirst rest
              (readItems? fuel id first rest).bind fun (cls, rest) =>
                readItems? fuel combine (operand.join (complementIf negated cls)) rest
      | cs =>
          (readRange? cs).bind fun (cls, rest) => readItems? fuel combine (operand.join cls) rest

/-- **A class** behind its opening bracket, and what follows it. -/
def readClass? (cs : List Char) : Option (CharClass × List Char) :=
  let (negated, rest) := readCaret cs
  let (first, rest) := readFirst rest
  (readItems? (rest.length + 1) id first rest).map fun (cls, rest) =>
    (complementIf negated cls, rest)

end Pattern

end Stencil
