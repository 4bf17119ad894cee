import Stencil.Placeholder

/-!
# Proofs/Pattern/Braces — what the default grammar matches

The threads that look for two opening braces, anything, and two closing braces are few, and they are
told by what has been read last: `ahead` while there is no pair of opening braces, `within` behind one.
Each character takes such a state to such a state, so the first match is at the first pair of opening
braces and ends with the first pair of closing ones behind it (`find?_braces`).
-/

namespace Stencil

namespace Text

/-! ## Cutting at a pair -/

/-- **What is before and what is behind the first pair** of two neighbours that are both `c`. -/
def cut? (c : Char) : List Char → Option (List Char × List Char)
  | a :: b :: rest =>
      if a = c ∧ b = c then some ([], rest)
      else (cut? c (b :: rest)).map fun parts => (a :: parts.1, parts.2)
  | _ => none

theorem cut?_pair (c : Char) (rest : List Char) : cut? c (c :: c :: rest) = some ([], rest) := by
  rw [cut?, if_pos ⟨rfl, rfl⟩]

/-- A character that is not `c` is before the first pair. -/
theorem cut?_cons {a c : Char} (h : a ≠ c) (rest : List Char) :
    cut? c (a :: rest) = (cut? c rest).map fun parts => (a :: parts.1, parts.2) := by
  rcases rest with _ | ⟨b, rest⟩
  · rfl
  · rw [cut?, if_neg fun hpair => h hpair.1]

/-- So is a `c` with another character behind it. -/
theorem cut?_cons_cons {b c : Char} (h : b ≠ c) (a : Char) (rest : List Char) :
    cut? c (a :: b :: rest) = (cut? c rest).map fun parts => (a :: b :: parts.1, parts.2) := by
  rw [cut?, if_neg fun hpair => h hpair.2, cut?_cons h, Option.map_map]
  rfl

/-- A pair of `c` stands at the beginning or further on. -/
theorem pair_infix_cons {a c : Char} {cs : List Char} :
    [c, c] <:+: a :: cs ↔ (a = c ∧ cs.head? = some c) ∨ [c, c] <:+: cs := by
  rw [List.infix_cons_iff, List.cons_prefix_cons]
  refine or_congr (and_congr eq_comm ?_) Iff.rfl
  rcases cs with _ | ⟨b, rest⟩
  · simp
  · simp [eq_comm]

/-- **It is the first pair**: even with the one half of it there is none before. -/
theorem cut?_eq_some {c : Char} {cs before behind : List Char} :
    cut? c cs = some (before, behind) ↔
      cs = before ++ c :: c :: behind ∧ ¬ [c, c] <:+: before ++ [c] := by
  constructor
  · intro h
    induction cs generalizing before with
    | nil => exact absurd h.symm (Option.some_ne_none _)
    | cons a rest ih =>
      rcases rest with _ | ⟨b, rest⟩
      · exact absurd h.symm (Option.some_ne_none _)
      rw [cut?] at h
      split at h
      · next hpair =>
        obtain ⟨rfl, rfl⟩ := hpair
        obtain ⟨rfl, rfl⟩ := Prod.mk.inj (Option.some.inj h)
        exact ⟨rfl, by simp [List.infix_cons_iff]⟩
      · next hpair =>
        obtain ⟨⟨before, behind⟩, hparts, heq⟩ := Option.map_eq_some_iff.1 h
        obtain ⟨rfl, rfl⟩ := Prod.mk.inj heq
        obtain ⟨hrest, hnone⟩ := ih hparts
        have hhead : (before ++ [c]).head? = some b := by
          rcases before with _ | ⟨d, before⟩ <;> exact congrArg List.head? hrest.symm
        refine ⟨congrArg (a :: ·) hrest, fun hpairs => ?_⟩
        rcases pair_infix_cons.1 hpairs with ⟨rfl, hc⟩ | hpairs
        · exact hpair ⟨rfl, Option.some.inj (hhead.symm.trans hc)⟩
        · exact hnone hpairs
  · rintro ⟨rfl, hnone⟩
    induction before with
    | nil => exact cut?_pair c behind
    | cons a before ih =>
      have hnone' : ¬ [c, c] <:+: before ++ [c] := fun hpairs =>
        hnone (pair_infix_cons.2 (.inr hpairs))
      have hpair : ¬ (a = c ∧ (before ++ [c]).head? = some c) := fun hpair =>
        hnone (pair_infix_cons.2 (.inl hpair))
      have hrest := ih hnone'
      rcases before with _ | ⟨b, before⟩
      · rw [List.cons_append, cut?_cons fun hac => hpair ⟨hac, rfl⟩, hrest]
        rfl
      · rw [List.cons_append, List.cons_append, cut?, if_neg fun h => hpair ⟨h.1, congrArg some h.2⟩]
        rw [List.cons_append] at hrest
        rw [hrest]
        rfl

end Text

namespace Pattern

open Placeholder (braces)

/-! ## The threads -/

/-- Two closing braces. -/
def closing : Pattern := .seq (.one (.only '\x7d')) (.one (.only '\x7d'))

/-- The shortest run of any characters. -/
def anything : Pattern := .star (.one .all) false

/-- What the default grammar asks for behind one brace, and behind two. -/
def behindOne : Pattern := .seq (.one (.only '\x7b')) (.seq (.group 1 anything) closing)

/-- The threads that wait for a match to begin at a place. -/
def looking (place : Nat) : List Thread :=
  [⟨[.pattern (.one (.only '\x7b')), .pattern behindOne], place, 0, none⟩,
    ⟨[.pattern (.one .all), .anywhere braces], 0, 0, none⟩]

/-- The thread that has read one opening brace. -/
def opened (start : Nat) : Thread :=
  ⟨[.pattern (.one (.only '\x7b')), .pattern (.seq (.group 1 anything) closing)], start, 0, none⟩

/-- The threads while there is no pair of opening braces; `start?` is where a brace has just been read. -/
def ahead (start? : Option Nat) (place : Nat) : List Thread :=
  (start?.map opened).toList ++ looking place

/-- The thread that has read one closing brace, behind a group that ended at `stop`. -/
def closed (start entered stop : Nat) : Thread :=
  ⟨[.pattern (.one (.only '\x7d'))], start, entered, some (entered, stop)⟩

/-- The threads behind a pair of opening braces at `start`, where the group was entered behind it;
`stop?` is where a closing brace has just been read. -/
def within (start entered : Nat) (stop? start? : Option Nat) (place : Nat) : List Thread :=
  (stop?.map (closed start entered)).toList ++
    ⟨[.pattern (.one (.only '\x7d')), .pattern (.one (.only '\x7d'))], start, entered,
        some (entered, place)⟩ ::
      ⟨[.pattern (.one .all), .pattern anything, .leave, .pattern closing], start, entered, none⟩ ::
        ahead start? place

theorem holds_only (c x : Char) : (CharClass.only x).holds c = decide (c = x) := by
  have hiff : (x ≤ c ∧ c ≤ x) ↔ c = x :=
    ⟨fun h => Char.le_antisymm h.2 h.1, fun h => h ▸ ⟨Char.le_refl c, Char.le_refl c⟩⟩
  rw [CharClass.only, CharClass.holds, ← Bool.decide_and]
  exact decide_eq_decide.2 hiff

/-- The threads between a character and the next. -/
def after (c : Char) (next? : Option Char) (place : Nat) (threads : List Thread) : List Thread :=
  Thread.settle ⟨place + 1, some c, next?⟩ braces.threadBound [] (threads.filterMap (·.read? c))

/-! ## Step by step -/

section Steps

variable (next? : Option Char)

theorem after_ahead_open (start? : Option Nat) (place : Nat) :
    after '\x7b' next? place (ahead start? place) =
      match start? with
      | none => ahead (some place) (place + 1)
      | some start => within start (place + 1) none (some place) (place + 1) := by
  rcases start? with _ | start <;> rfl

theorem after_ahead {c : Char} (h : c ≠ '\x7b') (start? : Option Nat) (place : Nat) :
    after c next? place (ahead start? place) = ahead none (place + 1) := by
  have hread : (ahead start? place).filterMap (·.read? c) =
      [⟨[.anywhere braces], 0, 0, none⟩] := by
    rcases start? with _ | start <;>
      simp [ahead, opened, looking, Thread.read?, holds_only, h, CharClass.all, CharClass.holds,
        Thread.withGoals]
  rw [after, hread]
  rfl

theorem after_within_open (start entered : Nat) (stop? start? : Option Nat) (place : Nat) :
    after '\x7b' next? place (within start entered stop? start? place) =
      within start entered none (some place) (place + 1) := by
  rcases stop? with _ | stop <;> rcases start? with _ | start' <;> rfl

theorem after_within_close (start entered : Nat) (start? : Option Nat) (place : Nat) :
    after '\x7d' next? place (within start entered none start? place) =
      within start entered (some place) none (place + 1) := by
  rcases start? with _ | start' <;> rfl

theorem after_within {c : Char} (hopen : c ≠ '\x7b') (hclose : c ≠ '\x7d') (start entered : Nat)
    (stop? start? : Option Nat) (place : Nat) :
    after c next? place (within start entered stop? start? place) =
      within start entered none none (place + 1) := by
  have hread : (within start entered stop? start? place).filterMap (·.read? c) =
      [⟨[.pattern anything, .leave, .pattern closing], start, entered, none⟩,
        ⟨[.anywhere braces], 0, 0, none⟩] := by
    rcases stop? with _ | stop <;> rcases start? with _ | start' <;>
      simp [within, closed, ahead, opened, looking, Thread.read?, holds_only, hopen, hclose,
        CharClass.all, CharClass.holds, Thread.withGoals]
  rw [after, hread]
  rfl

end Steps

/-! ## The first match -/

/-- The match that is complete with the first pair of closing braces. -/
def closedIn (start entered place : Nat) (cs : List Char) : Option Match :=
  (Text.cut? '\x7d' cs).map fun inner =>
    ⟨start, place + inner.1.length + 2, some (entered, place + inner.1.length)⟩

/-- **The match at the first pair of opening braces**, in a text that begins at `place`. -/
def bracedIn (place : Nat) (cs : List Char) : Option Match :=
  (Text.cut? '\x7b' cs).bind fun outer =>
    closedIn (place + outer.1.length) (place + outer.1.length + 2) (place + outer.1.length + 2) outer.2

/-- What is before the first pair in any case can be skipped. -/
theorem closedIn_append (skipped : List Char) {rest : List Char}
    (h : Text.cut? '\x7d' (skipped ++ rest) =
      (Text.cut? '\x7d' rest).map fun parts => (skipped ++ parts.1, parts.2))
    (start entered place : Nat) :
    closedIn start entered place (skipped ++ rest) =
      closedIn start entered (place + skipped.length) rest := by
  rw [closedIn, h, Option.map_map]
  refine congrArg (Option.map · _) (funext fun inner => ?_)
  simp only [Function.comp_apply, List.length_append, ← Nat.add_assoc]

theorem bracedIn_append (skipped : List Char) {rest : List Char}
    (h : Text.cut? '\x7b' (skipped ++ rest) =
      (Text.cut? '\x7b' rest).map fun parts => (skipped ++ parts.1, parts.2))
    (place : Nat) :
    bracedIn place (skipped ++ rest) = bracedIn (place + skipped.length) rest := by
  rw [bracedIn, h, Option.bind_map]
  refine congrArg (Option.bind _ ·) (funext fun outer => ?_)
  simp only [Function.comp_apply, List.length_append, ← Nat.add_assoc]

/-- Before a match is complete no thread is done, so each character is read by all of them. -/
theorem search_ahead_cons (start? : Option Nat) (place here : Nat) (c : Char) (rest : List Char) :
    search braces here (ahead start? place) none (c :: rest) =
      search braces (here + 1) (after c rest.head? here (ahead start? place)) none rest := by
  rcases start? with _ | start <;> rfl

theorem search_within_cons (start entered : Nat) (stop? start? : Option Nat) (place : Nat) (c : Char)
    (rest : List Char) :
    search braces place (within start entered stop? start? place) none (c :: rest) =
      search braces (place + 1) (after c rest.head? place (within start entered stop? start? place))
        none rest := by
  rcases stop? with _ | stop <;> rcases start? with _ | start' <;> rfl

/-- With the second closing brace the match is complete. -/
theorem search_within_close (start entered stop : Nat) (start? : Option Nat) (place : Nat)
    (rest : List Char) :
    search braces place (within start entered (some stop) start? place) none ('\x7d' :: rest) =
      some ⟨start, place + 1, some (entered, stop)⟩ := by
  rcases start? with _ | start' <;> rcases rest with _ | ⟨c, rest⟩ <;> rfl

/-- **Behind a pair of opening braces** the match is complete with the first pair of closing ones, of which
the one brace may have been read. -/
theorem search_within (start entered : Nat) : ∀ (rest : List Char) (place : Nat) (start? : Option Nat),
    search braces place (within start entered none start? place) none rest =
        closedIn start entered place rest ∧
      search braces (place + 1) (within start entered (some place) none (place + 1)) none rest =
        closedIn start entered place ('\x7d' :: rest)
  | [], place, start? => by
    rcases start? with _ | start' <;> exact ⟨rfl, rfl⟩
  | c :: rest, place, start? => by
    -- a character other than a closing brace, however the threads came about
    have hother : c ≠ '\x7d' → ∀ (here : Nat) (stop? start? : Option Nat),
        search braces here (within start entered stop? start? here) none (c :: rest) =
          closedIn start entered (here + 1) rest := by
      intro hclose here stop? start?
      rw [search_within_cons]
      by_cases hopen : c = '\x7b'
      · rw [hopen, after_within_open]
        exact (search_within start entered rest (here + 1) (some here)).1
      · rw [after_within _ hopen hclose]
        exact (search_within start entered rest (here + 1) none).1
    by_cases hclose : c = '\x7d'
    · subst hclose
      refine ⟨?_, ?_⟩
      · rw [search_within_cons, after_within_close]
        exact (search_within start entered rest place none).2
      · rw [search_within_close, closedIn, Text.cut?_pair]
        rfl
    · have hone := closedIn_append [c] (Text.cut?_cons hclose rest) start entered place
      have htwo := closedIn_append ['\x7d', c] (Text.cut?_cons_cons hclose _ rest) start entered place
      exact ⟨(hother hclose place none start?).trans hone.symm,
        (hother hclose (place + 1) (some place) none).trans htwo.symm⟩

/-- **In front of all pairs of opening braces** the match is at the first, of which the one brace may have
been read. -/
theorem search_ahead : ∀ (rest : List Char) (place : Nat),
    search braces place (ahead none place) none rest = bracedIn place rest ∧
      search braces (place + 1) (ahead (some place) (place + 1)) none rest =
        bracedIn place ('\x7b' :: rest)
  | [], place => ⟨rfl, rfl⟩
  | c :: rest, place => by
    by_cases hopen : c = '\x7b'
    · subst hopen
      refine ⟨?_, ?_⟩
      · rw [search_ahead_cons, after_ahead_open]
        exact (search_ahead rest place).2
      · rw [search_ahead_cons, after_ahead_open, bracedIn, Text.cut?_pair]
        exact (search_within place (place + 2) rest (place + 2) (some (place + 1))).1
    · have hone := bracedIn_append [c] (Text.cut?_cons hopen rest) place
      have htwo := bracedIn_append ['\x7b', c] (Text.cut?_cons_cons hopen _ rest) place
      refine ⟨?_, ?_⟩
      · rw [search_ahead_cons, after_ahead _ hopen]
        exact (search_ahead rest (place + 1)).1.trans hone.symm
      · rw [search_ahead_cons, after_ahead _ hopen]
        exact (search_ahead rest (place + 2)).1.trans htwo.symm

/-- **The first match of the default grammar.** -/
theorem find?_braces (before? : Option Char) (cs : List Char) : braces.find? before? cs = bracedIn 0 cs :=
  (search_ahead cs 0).1

end Pattern

end Stencil
