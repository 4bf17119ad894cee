import Stencil.Pattern.Basic

/-!
# Pattern/Thread — the ways a match can go on

While a text is read, a match goes on in several ways at once.  A thread is one of them: a list of
goals that have to be done one after another, and what has been noted on the way.  Threads are kept
in order of preference.  Two threads with the same goals have the same future, so of these only the
preferred one is followed (`Thread.settle`); this also ends the rounds that consume nothing.
-/

namespace Stencil

namespace Pattern

/-- What remains to be done for a match. -/
inductive Goal where
  /-- Match a pattern. -/
  | pattern (p : Pattern)
  /-- Have another round, or go on. -/
  | again (body : Pattern) (greedy : Bool)
  /-- The first group ends. -/
  | leave
  /-- Match a pattern here or further on. -/
  | anywhere (p : Pattern)
deriving DecidableEq

/-- A way a match can go on: the goals that remain, where the match began, where the first group was
last entered and where it last began and ended. -/
structure Thread where
  goals : List Goal
  began : Nat
  entered : Nat
  span? : Option (Nat × Nat)
deriving DecidableEq

/-- Two ways in order of preference. -/
def prefer (first : Bool) (a b : List Goal) : List (List Goal) := if first then [a, b] else [b, a]

namespace Thread

/-- The same way with other goals. -/
def withGoals (t : Thread) (goals : List Goal) : Thread := { t with goals := goals }

/-- What becomes of a thread without a character being read, in order of preference; none if it has
to wait for a character or is done. -/
def branches? (gap : Gap) (t : Thread) : Option (List Thread) :=
  match t.goals with
  | [] => none
  | .again p greedy :: rest =>
      some ((prefer greedy (.pattern p :: .again p greedy :: rest) rest).map t.withGoals)
  | .leave :: rest => some [{ t with goals := rest, span? := some (t.entered, gap.position) }]
  | .anywhere p :: rest =>
      some [{ t with goals := .pattern p :: rest, began := gap.position },
        t.withGoals (.pattern (one .all) :: .anywhere p :: rest)]
  | .pattern p :: rest =>
      match p with
      | empty => some [t.withGoals rest]
      | one _ => none
      | edge e => some (if e.holds gap then [t.withGoals rest] else [])
      | seq p q => some [t.withGoals (.pattern p :: .pattern q :: rest)]
      | alt p q => some [t.withGoals (.pattern p :: rest), t.withGoals (.pattern q :: rest)]
      | group number p =>
          if number = 1 then
            some [{ t with goals := .pattern p :: .leave :: rest, entered := gap.position }]
          else some [t.withGoals (.pattern p :: rest)]
      | option p greedy => some ((prefer greedy (.pattern p :: rest) rest).map t.withGoals)
      | star p greedy =>
          let next := if p.nullable then Goal.again p greedy else .pattern (star p greedy)
          some ((prefer greedy (.pattern p :: next :: rest) rest).map t.withGoals)
      | plus p greedy => some [t.withGoals (.pattern p :: .again p greedy :: rest)]

/-- Follow threads until each waits for a character or is done.  Goals in `seen` have been followed
at this place already.  `fuel` bounds the number of threads that are looked at. -/
def settle (gap : Gap) : (fuel : Nat) → (seen : List (List Goal)) → List Thread → List Thread
  | 0, _, _ => []
  | _, _, [] => []
  | fuel + 1, seen, t :: rest =>
      if t.goals ∈ seen then settle gap fuel seen rest
      else
        match t.branches? gap with
        | none => t :: settle gap fuel (t.goals :: seen) rest
        | some ts => settle gap fuel (t.goals :: seen) (ts ++ rest)

/-- What becomes of a waiting thread when a character is read. -/
def read? (c : Char) (t : Thread) : Option Thread :=
  match t.goals with
  | .pattern (one cls) :: rest => if cls.holds c then some (t.withGoals rest) else none
  | _ => none

/-- Whether a thread has nothing left to do. -/
def isDone (t : Thread) : Bool := t.goals.isEmpty

end Thread

end Pattern

end Stencil
