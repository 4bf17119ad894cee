import Stencil.Interpolation
import Stencil.Proofs.Pattern.Pieces

/-!
# Proofs/Interpolation — filling holes is substituting placeholders

The interpolation of a text, made of the matches in it, is filled to just what comes out if every placeholder
of the text is replaced where it stands (`render_ofText`).  A text without a placeholder stays as it is.
-/

namespace Stencil

open Pattern (Match Piece piecesFrom)

/-- **The pieces of a text with each placeholder replaced** by the text of the scalar it stands for, or
the error of the first that has none. -/
def Scope.substitute (scope : Scope) : List Piece → Except PathError String
  | [] => .ok ""
  | .letter c :: rest => (scope.substitute rest).map (String.singleton c ++ ·)
  | .placeholder _ expression :: rest =>
      (scope.string ⟨String.ofList expression⟩).bind fun value =>
        (scope.substitute rest).map (value ++ ·)

/-- Pieces without a placeholder stay as they were written. -/
theorem Scope.substitute_of_all_letters (scope : Scope) : ∀ {pieces : List Piece},
    pieces.any Piece.isPlaceholder = false →
      scope.substitute pieces = .ok (String.ofList (pieces.flatMap Piece.written))
  | [], _ => rfl
  | .letter c :: rest, h => by
      have hrest : rest.any Piece.isPlaceholder = false := h
      rw [substitute, substitute_of_all_letters scope hrest, List.flatMap_cons,
        String.ofList_append]
      rfl

/-- Whether a text holds a placeholder. -/
def Placeholder.occursIn (placeholder : Placeholder) (raw : String) : Bool :=
  (placeholder.pieces raw.toList).any Piece.isPlaceholder

/-- A text with its placeholders replaced. -/
def Scope.fill (scope : Scope) (placeholder : Placeholder) (raw : String) :
    Except PathError String :=
  scope.substitute (placeholder.pieces raw.toList)

namespace Interpolation

/-- Whether a text is filled is whether there is a placeholder among its pieces. -/
theorem isDynamic_ofMatches (cs : List Char) : ∀ (place : Nat) (found : List Match),
    (ofMatches cs place found).isDynamic = (piecesFrom cs place found).any Piece.isPlaceholder
  | place, [] => by
    rw [piecesFrom, List.any_map]
    exact (List.any_eq_false.2 fun _ _ => Bool.false_ne_true).symm
  | place, m :: rest => by
    rw [ofMatches, piecesFrom]
    rcases m.captured? cs with _ | expression
    · exact isDynamic_ofMatches cs place rest
    · rw [List.any_append, List.any_cons, Piece.isPlaceholder, Bool.true_or, Bool.or_true]
      rfl

/-- Letters in front stay as they are. -/
theorem substitute_letters_append (scope : Scope) (cs : List Char) (pieces : List Piece) :
    scope.substitute (cs.map .letter ++ pieces) =
      (scope.substitute pieces).map (String.ofList cs ++ ·) := by
  induction cs with
  | nil =>
    rcases hpieces : scope.substitute pieces with e | value
    · exact hpieces
    · exact hpieces.trans (congrArg Except.ok String.empty_append.symm)
  | cons c cs ih =>
    rw [List.map_cons, List.cons_append, Scope.substitute, ih]
    rcases scope.substitute pieces with e | value
    · rfl
    · rw [String.ofList_cons]
      exact congrArg Except.ok (String.append_assoc ..).symm

/-- **Filling the holes that matches leave replaces the placeholders among the pieces.** -/
theorem render_ofMatches (scope : Scope) (cs : List Char) : ∀ (place : Nat) (found : List Match),
    (ofMatches cs place found).render scope = scope.substitute (piecesFrom cs place found)
  | place, [] => by
    have hletters := substitute_letters_append scope (cs.drop place) []
    rw [List.append_nil] at hletters
    rw [piecesFrom, hletters]
    exact congrArg Except.ok String.append_empty.symm
  | place, m :: rest => by
    rw [ofMatches, piecesFrom]
    rcases m.captured? cs with _ | expression
    · exact render_ofMatches scope cs place rest
    · have hrest := render_ofMatches scope cs m.stop rest
      simp only [substitute_letters_append, Scope.substitute, ← hrest, render, cons, fill]
      rcases scope.string ⟨String.ofList expression⟩ with e | value
      · rfl
      · simp only [Except.bind]
        rcases fill scope _ (ofMatches cs m.stop rest).holes with e | filled
        · rfl
        · exact congrArg Except.ok (String.append_assoc ..)

/-! ## Texts -/

theorem isDynamic_ofText (placeholder : Placeholder) (raw : String) :
    (ofText placeholder raw).isDynamic = placeholder.occursIn raw := isDynamic_ofMatches _ 0 _

/-- **A text with its holes filled is the text with its placeholders replaced.** -/
theorem render_ofText (placeholder : Placeholder) (raw : String) (scope : Scope) :
    (ofText placeholder raw).render scope = scope.fill placeholder raw :=
  render_ofMatches scope _ 0 _

/-- A text without a placeholder stays as it is. -/
theorem fill_of_not_occursIn {placeholder : Placeholder} {raw : String} (scope : Scope)
    (h : placeholder.occursIn raw = false) : scope.fill placeholder raw = .ok raw := by
  rw [Scope.fill, Scope.substitute_of_all_letters scope h, Placeholder.flatMap_written_pieces,
    String.ofList_toList]

end Interpolation

end Stencil
