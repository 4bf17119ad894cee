import Stencil.Scope
import Stencil.Template.Directive

/-!
# Render/Condition — when a condition holds

A null test decides alone.  Otherwise equality and the comparisons are all required, from left to right
up to the first that fails; without any of them it counts whether the value is true.  Two values are
equal if their numbers are, should both spell one, and else if their texts are.
-/

namespace Stencil

/-- The number of an operand. -/
def Operand.double (scope : Scope) : Operand → Except PathError Double
  | literal text => .ok (.ofText text)
  | path p => scope.double p

/-- The text of an operand, and its number if it spells one. -/
def Operand.forms (scope : Scope) : Operand → Except PathError (String × Option Double)
  | literal text => .ok (text, Double.spelled? text)
  | path p => do
      let text ← scope.string p
      let value ← scope.lookup p
      .ok (text, value.numeric?)

/-- Whether two texts, with the numbers they may spell, are equal. -/
def sameForms (a b : String × Option Double) : Bool :=
  match a.2, b.2 with
  | some x, some y => x.equals y
  | _, _ => a.1 = b.1

/-- **Whether the scalar at a path is equal to an operand.** -/
def Scope.equals (scope : Scope) (path : Path) (operand : Operand) : Except PathError Bool := do
  let own ← (Operand.path path).forms scope
  let other ← operand.forms scope
  .ok (sameForms own other)

/-- Whether all comparisons hold; `sofar` is what the tests before them came to, if there were any. -/
def compareAll (scope : Scope) (test : Path) :
    (sofar : Option Bool) → List (Comparison × Operand) → Except PathError (Option Bool)
  | sofar, [] => .ok sofar
  | some false, _ => .ok (some false)
  | _, (comparison, operand) :: rest => do
      let left ← scope.double test
      let right ← operand.double scope
      compareAll scope test (some (comparison.holds left right)) rest

/-- What the equality test of a condition comes to, if it has one. -/
def Condition.equalTest (condition : Condition) (scope : Scope) : Except PathError (Option Bool) :=
  match condition.equal? with
  | none => .ok none
  | some operand => (scope.equals condition.test operand).map some

/-- What a condition on a value comes to before it is negated. -/
def Condition.core (condition : Condition) (scope : Scope) (value : Value) :
    Except PathError Bool :=
  if condition.null then .ok value.isNull
  else do
    let sofar ← condition.equalTest scope
    let result ← compareAll scope condition.test sofar condition.comparisons
    .ok (result.getD value.truthy)

/-- **Whether a condition holds.** -/
def Condition.evaluate (condition : Condition) (scope : Scope) : Except PathError Bool := do
  let value ← scope.lookup condition.test
  let result ← condition.core scope value
  .ok (result != condition.negated)

end Stencil
