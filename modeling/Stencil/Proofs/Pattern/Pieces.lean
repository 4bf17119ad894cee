import Stencil.Placeholder

/-!
# Proofs/Pattern/Pieces — the pieces of a text are the text

Matches in order cut a text into pieces: the placeholders, that is the matches whose group took part, and the
characters that belong to none (`piecesFrom`).  The pieces, each as it was written, are the text again
(`flatMap_written_piecesFrom`), whatever has found the matches.
-/

namespace Stencil

/-! ## Parts of a text -/

namespace Text

theorem length_between {cs : List Char} {a b : Nat} (hb : b ≤ cs.length) :
    (between cs a b).length = b - a := by
  rw [between, List.length_drop, List.length_take_of_le hb]

/-- Behind a part comes the rest. -/
theorem between_append_drop (cs : List Char) {a b : Nat} (h : a ≤ b) :
    between cs a b ++ cs.drop b = cs.drop a := by
  have hdrop : (cs.drop a).drop (b - a) = cs.drop b := by rw [List.drop_drop, Nat.add_sub_cancel' h]
  rw [between, ← hdrop, List.drop_take]
  exact List.take_append_drop _ _

/-- Parts that meet are one part. -/
theorem between_append (cs : List Char) {a b c : Nat} (hab : a ≤ b) (hbc : b ≤ c) :
    between cs a b ++ between cs b c = between cs a c := by
  have htake : (cs.take c).take b = cs.take b := by rw [List.take_take, Nat.min_eq_left hbc]
  rw [between, ← htake]
  exact between_append_drop (cs.take c) hab

/-- A part of what is behind a place is a part of the whole. -/
theorem between_drop (cs : List Char) (n a b : Nat) :
    between (cs.drop n) a b = between cs (n + a) (n + b) := by
  rw [between, between, List.take_drop, List.drop_drop]

end Text

namespace Pattern

/-- A match that is moved captures what it captured behind the place. -/
theorem Match.captured?_shift (place : Nat) (m : Match) (cs : List Char) :
    (m.shift place).captured? cs = m.captured? (cs.drop place) := by
  rw [captured?, captured?, shift, Option.map_map]
  exact congrArg (m.span?.map ·) (funext fun span => (Text.between_drop cs place span.1 span.2).symm)

/-! ## Pieces -/

/-- A part of a text: a character that stands for itself, or a placeholder as it was written with the
expression in it. -/
inductive Piece where
  | letter (c : Char)
  | placeholder (written expression : List Char)
deriving DecidableEq

namespace Piece

/-- What a piece looked like in the text. -/
def written : Piece → List Char
  | letter c => [c]
  | placeholder written _ => written

/-- Whether a piece is a placeholder. -/
def isPlaceholder : Piece → Bool
  | letter _ => false
  | placeholder _ _ => true

end Piece

/-- **The pieces that matches cut a text into**, from a place on. -/
def piecesFrom (cs : List Char) : (place : Nat) → List Match → List Piece
  | place, [] => (cs.drop place).map .letter
  | place, m :: rest =>
      match m.captured? cs with
      | none => piecesFrom cs place rest
      | some expression =>
          (Text.between cs place m.start).map .letter ++
            .placeholder (m.written cs) expression :: piecesFrom cs m.stop rest

/-- Letters are written as they are. -/
theorem flatMap_written_letters (cs : List Char) : (cs.map Piece.letter).flatMap Piece.written = cs := by
  induction cs with
  | nil => rfl
  | cons c rest ih => exact congrArg (c :: ·) ih

/-- **The pieces of a text, as they were written, are the text.** -/
theorem flatMap_written_piecesFrom (cs : List Char) : ∀ {place : Nat} {found : List Match},
    InOrder cs.length place found → (piecesFrom cs place found).flatMap Piece.written = cs.drop place
  | _, [], _ => flatMap_written_letters _
  | place, m :: rest, ⟨hplace, hspan, hrest⟩ => by
    rw [piecesFrom]
    rcases m.captured? cs with _ | expression
    · exact flatMap_written_piecesFrom cs (hrest.of_le (Nat.le_trans hplace hspan))
    · have hwritten : Piece.written (.placeholder (m.written cs) expression) =
          Text.between cs m.start m.stop := rfl
      rw [List.flatMap_append, flatMap_written_letters, List.flatMap_cons, hwritten,
        flatMap_written_piecesFrom cs hrest, Text.between_append_drop cs hspan,
        Text.between_append_drop cs hplace]

end Pattern

namespace Placeholder

/-- The pieces of a text. -/
def pieces (placeholder : Placeholder) (cs : List Char) : List Pattern.Piece :=
  Pattern.piecesFrom cs 0 (placeholder.occurrences cs)

/-- **A text is cut up into pieces without a loss.** -/
theorem flatMap_written_pieces (placeholder : Placeholder) (cs : List Char) :
    (placeholder.pieces cs).flatMap Pattern.Piece.written = cs :=
  Pattern.flatMap_written_piecesFrom cs (placeholder.regex.inOrder cs)

end Placeholder

end Stencil
