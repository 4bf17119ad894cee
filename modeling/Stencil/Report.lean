/-!
# Report — what a failure tells its reader

Each kind of failure is a type of causes in the module of the operation that can fail; `report` on it
gives the wording.
-/

namespace Stencil

/-- The wording of a failure: a code to look it up by, a sentence, and advice if there is any. -/
structure Report where
  code : String
  message : String
  help? : Option String
deriving DecidableEq

end Stencil
