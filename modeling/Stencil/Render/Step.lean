import Stencil.Render.Decision
import Stencil.Scope

/-!
# Render/Step — the steps of a rendering

Rendering takes decisions and hands out items.  An item is a node or an error; an error is a path that
cannot be used, or entries that do not fit the skeleton they belong to.
-/

namespace Stencil

/-- How the entries of an element do not fit the children of its skeleton. -/
inductive Misfit where
  /-- An entry finds no child at its position. -/
  | noSlotLeft (position children : Nat)
  /-- The child at a position cannot be reached for changing. -/
  | slotVanished (position : Nat)
  /-- Children are left when all entries have had theirs. -/
  | slotsLeft (count : Nat)
deriving DecidableEq

/-- The words for a misfit. -/
def Misfit.text : Misfit → String
  | noSlotLeft position children =>
      "no skeleton child left at position " ++ countText position ++ " ("
        ++ countText children ++ " children)"
  | slotVanished position => "child " ++ countText position ++ " vanished"
  | slotsLeft count => countText count ++ " skeleton children left unmatched"

/-- Why a rendering ends early. -/
inductive RenderError where
  /-- A path cannot be used. -/
  | path (e : PathError)
  /-- Entries and skeleton do not fit, in an element of this tag. -/
  | misaligned (tag? : Option String) (misfit : Misfit)
deriving DecidableEq

/-- The tag that stands for a node without one. -/
def fragmentTag : String := "#fragment"

/-- The wording of a rendering error. -/
def RenderError.report : RenderError → Report
  | path e => e.report
  | misaligned tag? misfit =>
      ⟨"gabarit::alignment",
        "Compiled children of `" ++ tag?.getD fragmentTag ++ "` do not line up with its skeleton: "
          ++ misfit.text, none⟩

/-- One step of a rendering. -/
inductive Step (N : Type) where
  | decision (d : Decision)
  | item (outcome : Except RenderError N)

namespace Step

variable {N : Type}

/-- The items that some steps hand out. -/
def items : List (Step N) → List (Except RenderError N)
  | [] => []
  | .decision _ :: rest => items rest
  | .item outcome :: rest => outcome :: items rest

/-- The decisions that some steps take. -/
def decisions : List (Step N) → List Decision
  | [] => []
  | .decision d :: rest => d :: decisions rest
  | .item _ :: rest => decisions rest

end Step

end Stencil
