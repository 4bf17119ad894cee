import Stencil.Pattern.Thread

/-!
# Pattern/Matching — where a pattern matches

A text is read once from left to right, and all ways a match can go on are followed side by side
(`Pattern.search`).  A match that begins further left is preferred, and of those that begin at one
place the one that comes first in the order of preference: as soon as a thread is done, all that are
less preferred are given up.

Matches of a text are taken from left to right and do not overlap (`Pattern.occurrences`).
-/

namespace Stencil

/-- The characters between two places. -/
def Text.between (cs : List Char) (a b : Nat) : List Char := (cs.take b).drop a

namespace Pattern

/-- A match in a text: where it begins and ends, and where the first group does if it took part. -/
structure Match where
  start : Nat
  stop : Nat
  span? : Option (Nat × Nat)
deriving DecidableEq

namespace Match

/-- The match that a thread has found. -/
def ofThread (position : Nat) (t : Thread) : Match := ⟨t.began, position, t.span?⟩

/-- The characters of a match. -/
def written (m : Match) (cs : List Char) : List Char := Text.between cs m.start m.stop

/-- The characters of the group, if it took part. -/
def captured? (m : Match) (cs : List Char) : Option (List Char) :=
  m.span?.map fun span => Text.between cs span.1 span.2

/-- A match of what is behind a place as a match of the whole text. -/
def shift (place : Nat) (m : Match) : Match :=
  ⟨place + m.start, place + m.stop, m.span?.map fun span => (place + span.1, place + span.2)⟩

end Match

/-- How many threads may have to be looked at in one place: each part of a pattern gives rise to at
most two lists of goals, each list is followed once, and following one leads to at most two. -/
def threadBound (p : Pattern) : Nat := 8 * (p.size + 2)

/-- Go on with threads at a position; `best?` is the match to fall back on. -/
def search (p : Pattern) :
    (position : Nat) → List Thread → (best? : Option Match) → List Char → Option Match
  | position, threads, best?, rest =>
      let alive := threads.takeWhile (!·.isDone)
      let best? := ((threads.find? (·.isDone)).map (Match.ofThread position)).or best?
      match rest with
      | [] => best?
      | c :: rest =>
          if alive.isEmpty then best?
          else search p (position + 1)
            (Thread.settle ⟨position + 1, some c, rest.head?⟩ p.threadBound []
              (alive.filterMap (·.read? c))) best? rest

/-- **The first match in a text** behind a character, or at the beginning. -/
def find? (p : Pattern) (before? : Option Char) (cs : List Char) : Option Match :=
  search p 0 (Thread.settle ⟨0, before?, cs.head?⟩ p.threadBound [] [⟨[.anywhere p], 0, 0, none⟩]) none cs

/-- The matches from a place on.  An empty match is refused right behind a match that is `adjacent`, and what
follows one is looked for behind the next character.  `fuel` bounds the number of matches. -/
def occurrencesFrom (p : Pattern) :
    (fuel : Nat) → (adjacent : Bool) → (before? : Option Char) → (place : Nat) → List Char → List Match
  | 0, _, _, _, _ => []
  | fuel + 1, adjacent, before?, place, cs =>
      match p.find? before? cs with
      | none => []
      | some m =>
          let found := if adjacent ∧ m.stop = 0 then [] else [m.shift place]
          if m.start < m.stop then
            found ++ occurrencesFrom p fuel true ((cs.take m.stop).getLast?.or before?)
              (place + m.stop) (cs.drop m.stop)
          else
            found ++
              match cs.drop m.stop with
              | [] => []
              | c :: rest => occurrencesFrom p fuel false (some c) (place + m.stop + 1) rest

/-- **The matches of a text**, from left to right. -/
def occurrences (p : Pattern) (cs : List Char) : List Match :=
  occurrencesFrom p (cs.length + 1) false none 0 cs

end Pattern

end Stencil
