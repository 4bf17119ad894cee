import Stencil.Scope
import Stencil.Template.Directive

/-!
# Render/Rounds — the scopes of a loop's rounds

A loop has one round for each item of a sequence or each entry of a mapping.  A round sees the value,
the key if one is asked for, and the counter, in that order; a later one of the same name wins.
-/

namespace Stencil

/-- The counter's value in a round: `start + round · step`, rounded after each operation. -/
def Counter.at (counter : Counter) (round : Nat) : Double :=
  counter.start.add ((Double.ofInt round).mul counter.step)

namespace Loop

/-- What a loop binds in a round. -/
def bindings (loop : Loop) (round : Nat) (key? : Option String) (value : Value) :
    List (String × Value) :=
  (loop.valueName, value)
    :: ((match loop.keyName?, key? with
        | some name, some key => [(name, Value.string key)]
        | _, _ => [])
      ++ (match loop.counter? with
        | some counter => [(counter.name, Value.ofDouble (counter.at round))]
        | none => []))

/-- The rounds from one on, each with its key and value. -/
def scopesFrom (loop : Loop) (scope : Scope) :
    (round : Nat) → List (Option String × Value) → List Scope
  | _, [] => []
  | round, (key?, value) :: rest =>
      scope.derive (loop.bindings round key? value) :: scopesFrom loop scope (round + 1) rest

/-- What a loop runs over.  With a key it has to be a mapping. -/
def items (loop : Loop) (scope : Scope) : Except PathError (List (Option String × Value)) :=
  match loop.keyName? with
  | some _ => (scope.entries loop.iterable).map (·.map fun entry => (some entry.1, entry.2))
  | none => (scope.items loop.iterable).map (·.map (none, ·))

/-- **The scopes of a loop's rounds.** -/
def scopes (loop : Loop) (scope : Scope) : Except PathError (List Scope) :=
  (loop.items scope).map (loop.scopesFrom scope 0)

end Loop

end Stencil
