import Stencil.Pattern.Bracket
import Stencil.Text.Letter

/-!
# Pattern/Reader — the written form of patterns

A pattern is written with `.` for any character but a line feed, classes in square brackets, `\w`,
`\s`, `\d` and their complements, groups in parentheses, `|` for choice and `*`, `+`, `?` or counts in
braces for repetition, each made reluctant by a further `?`.  `^` and `\A` stand for the beginning of the
text, `$` and `\z` for its end, `\b` for an edge of a word and `\B` for a place that is none.  A leading `(?s)`
lets `.` match line feeds too.  Groups that capture are numbered in the order of their opening parentheses.

What else is written with a backslash or behind `(?`, such as properties of characters and other settings, is
no pattern here.

Reading takes two steps: the characters become marks, and a stack of open groups turns the marks into
a pattern.
-/

namespace Stencil

namespace Pattern

/-- How often a body repeats: at least `least` times, and at most `most?` times if there is a bound. -/
structure Count where
  least : Nat
  most? : Option Nat

/-- A mark of the written form. -/
inductive Mark where
  | single (cls : CharClass)
  | edge (edge : Edge)
  | opening (captures : Bool) (name? : Option (List Char))
  | closing
  | bar
  | repeated (count : Count) (greedy : Bool)

/-! ## Groups and repetitions -/

/-- Whether a name may be given to a group. -/
def validName : List Char → Bool
  | [] => false
  | c :: rest =>
      (c = '_' || Text.isLetter c)
        && rest.all fun c => c = '_' || c = '.' || c = '[' || c = ']' || Text.isLetter c
          || Text.isNumeral c

/-- A group's name up to its angle bracket, and what follows. -/
def readName? (cs : List Char) : Option (List Char × List Char) :=
  let name := cs.takeWhile (· ≠ '>')
  match cs.dropWhile (· ≠ '>') with
  | _ :: rest => if validName name then some (name, rest) else none
  | [] => none

/-- The head of a group behind its parenthesis, and what follows it. -/
def readOpen? : List Char → Option (Mark × List Char)
  | '?' :: ':' :: rest => some (.opening false none, rest)
  | '?' :: 'P' :: '<' :: rest => (readName? rest).map fun (name, rest) =>
      (.opening true (some name), rest)
  | '?' :: '<' :: rest => (readName? rest).map fun (name, rest) => (.opening true (some name), rest)
  | '?' :: _ => none
  | rest => some (.opening true none, rest)

/-- A number in front of a text. -/
def readNumber? (cs : List Char) : Option (Nat × List Char) :=
  let digits := cs.takeWhile Char.isDigit
  if digits = [] then none else some (Nat.ofDigitChars 10 digits 0, cs.dropWhile Char.isDigit)

/-- A count behind its opening brace, and what follows it. -/
def readCount? (cs : List Char) : Option (Count × List Char) :=
  (readNumber? cs).bind fun (least, rest) =>
    match rest with
    | '\x7d' :: rest => some (⟨least, some least⟩, rest)
    | ',' :: '\x7d' :: rest => some (⟨least, none⟩, rest)
    | ',' :: rest =>
        (readNumber? rest).bind fun (most, rest) =>
          match rest with
          | '\x7d' :: rest => if least ≤ most then some (⟨least, some most⟩, rest) else none
          | _ => none
    | _ => none

/-- A repetition, reluctant if a question mark follows. -/
def repetition (count : Count) : List Char → Mark × List Char
  | '?' :: rest => (.repeated count false, rest)
  | rest => (.repeated count true, rest)

/-- The mark at the beginning of a text, and what follows it. -/
def readMark? (dot : CharClass) : List Char → Option (Mark × List Char)
  | [] => none
  | '^' :: rest => some (.edge .start, rest)
  | '$' :: rest => some (.edge .stop, rest)
  | '\\' :: 'A' :: rest => some (.edge .start, rest)
  | '\\' :: 'z' :: rest => some (.edge .stop, rest)
  | '\\' :: 'B' :: rest => some (.edge .noWord, rest)
  | '\\' :: 'b' :: '\x7b' :: _ => none
  | '\\' :: 'b' :: rest => some (.edge .word, rest)
  | '\\' :: rest => (readEscape? rest).map fun (cls, rest) => (.single cls, rest)
  | '.' :: rest => some (.single dot, rest)
  | '[' :: rest => (readClass? rest).map fun (cls, rest) => (.single cls, rest)
  | '(' :: rest => readOpen? rest
  | ')' :: rest => some (.closing, rest)
  | '|' :: rest => some (.bar, rest)
  | '*' :: rest => some (repetition ⟨0, none⟩ rest)
  | '+' :: rest => some (repetition ⟨1, none⟩ rest)
  | '?' :: rest => some (repetition ⟨0, some 1⟩ rest)
  | '\x7b' :: rest => (readCount? rest).map fun (count, rest) => repetition count rest
  | c :: rest => some (.single (.only c), rest)

/-- The marks of a text. -/
def marks? (dot : CharClass) : (fuel : Nat) → List Char → Option (List Mark)
  | _, [] => some []
  | 0, _ => none
  | fuel + 1, cs =>
      (readMark? dot cs).bind fun (mark, rest) => (marks? dot fuel rest).map (mark :: ·)

/-! ## Patterns -/

/-- A group that is still open: its number if it captures, its alternatives so far and the items of
the present one, the last ones first. -/
structure Frame where
  number? : Option Nat
  alternatives : List Pattern
  items : List Pattern

/-- What a frame holds. -/
def Frame.body (frame : Frame) : Pattern :=
  Pattern.alternatives (Pattern.sequence frame.items.reverse :: frame.alternatives).reverse

/-- What a frame stands for once it is closed. -/
def Frame.closed (frame : Frame) : Pattern :=
  match frame.number? with
  | some number => group number frame.body
  | none => frame.body

/-- A frame with one more item. -/
def Frame.push (frame : Frame) (p : Pattern) : Frame := { frame with items := p :: frame.items }

/-- At most `n` rounds, each only after the one before. -/
def upTo (p : Pattern) (greedy : Bool) : Nat → Pattern
  | 0 => empty
  | 1 => option p greedy
  | n + 1 => option (seq p (upTo p greedy n)) greedy

/-- A pattern repeated as often as a count says. -/
def times (p : Pattern) (count : Count) (greedy : Bool) : Pattern :=
  match count.least, count.most? with
  | 0, none => star p greedy
  | least + 1, none => sequence (List.replicate least p ++ [plus p greedy])
  | least, some most =>
      if most = least then sequence (List.replicate least p)
      else sequence (List.replicate least p ++ [upTo p greedy (most - least)])

/-- The pattern that marks write, inside the open groups `frame :: outer`.  `groups` of the groups
that capture have been opened. -/
def build? (groups : Nat) (frame : Frame) (outer : List Frame) : List Mark → Option Pattern
  | [] =>
      match outer with
      | [] => some frame.closed
      | _ => none
  | .single cls :: rest => build? groups (frame.push (one cls)) outer rest
  | .edge e :: rest => build? groups (frame.push (edge e)) outer rest
  | .bar :: rest =>
      build? groups
        { frame with alternatives := Pattern.sequence frame.items.reverse :: frame.alternatives,
                     items := [] } outer rest
  | .repeated count greedy :: rest =>
      match frame.items with
      | [] => none
      | p :: items =>
          build? groups { frame with items := times p count greedy :: items } outer rest
  | .opening true _ :: rest =>
      build? (groups + 1) ⟨some (groups + 1), [], []⟩ (frame :: outer) rest
  | .opening false _ :: rest => build? groups ⟨none, [], []⟩ (frame :: outer) rest
  | .closing :: rest =>
      match outer with
      | [] => none
      | parent :: outer => build? groups (parent.push frame.closed) outer rest

/-- The names that groups are given. -/
def groupNames (marks : List Mark) : List (List Char) :=
  marks.filterMap fun
    | .opening _ name? => name?
    | _ => none

/-- **Read a pattern.** -/
def read? (cs : List Char) : Option Pattern :=
  let (dot, body) := match cs with
    | '(' :: '?' :: 's' :: ')' :: rest => (CharClass.all, rest)
    | rest => (CharClass.except '\n', rest)
  (marks? dot body.length body).bind fun marks =>
    if (groupNames marks).Nodup then build? 0 ⟨none, [], []⟩ [] marks else none

end Pattern

end Stencil
