import Stencil.Notice
import Stencil.Path

/-!
# Render/Decision — the choices that directives make

Which branch of a chain is taken, which case of a switch, and how many rounds a loop has: these are the
points where data decide about the course of a rendering.
-/

namespace Stencil

/-- A decision that a directive takes. -/
inductive Decision where
  /-- A condition holds. -/
  | thenBranch (test : Path)
  /-- The condition of an `else-if` holds. -/
  | elseIfBranch (test : Path) (branch : Nat)
  /-- No condition of a chain holds. -/
  | fellThrough (test : Path) (hasElse : Bool)
  /-- A case is equal to the value. -/
  | caseMatched (subject : Path) (case : Nat)
  /-- No case is. -/
  | noCase (subject : Path) (hasDefault : Bool)
  /-- A loop begins. -/
  | rounds (iterable : Path) (count : Nat) (toTop : Bool)
deriving DecidableEq

/-- What a decision reports. -/
def Decision.notice : Decision → Notice
  | thenBranch test => ⟨"if: then branch", [("test", test.text)]⟩
  | elseIfBranch test branch =>
      ⟨"if: else-if branch", [("test", test.text), ("branch", countText branch)]⟩
  | fellThrough test hasElse =>
      ⟨"if: fell through", [("test", test.text), ("has_else", flagText hasElse)]⟩
  | caseMatched subject case =>
      ⟨"switch: case matched", [("value", subject.text), ("case", countText case)]⟩
  | noCase subject hasDefault =>
      ⟨"switch: no case matched",
        [("value", subject.text), ("has_default", flagText hasDefault)]⟩
  | rounds iterable count toTop =>
      ⟨"for", [("iterable", iterable.text), ("iterations", countText count),
        ("to_top", flagText toTop)]⟩

end Stencil
