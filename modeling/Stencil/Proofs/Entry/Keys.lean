import Mathlib.Data.List.Basic
import Stencil.Node.Basic
import Stencil.Proofs.Entry.Influence
import Stencil.Proofs.Entry.Settled

/-!
# Proofs/Entry/Keys — keys that nobody asks for

    entries of a mapping ──with keys──▸ rounds ┐
                                               ├─ agree on all names but the key's
    values of a mapping  ──without───▸ rounds  ┘

With a key a loop runs over the entries of a mapping, without one over its values.  These are as many
rounds in the same order, and round by round the scopes agree on every name but that of the key
(`Loop.agreeOn_bindings`).  So a body in which no path begins with this name comes to the same in both.
-/

namespace Stencil

/-! ## Rounds with and without keys -/

namespace Loop

/-- A loop that does not ask for the key. -/
def withoutKey (run : Loop) : Loop := { run with keyName? := none }

variable {run : Loop} {key : String}

/-- Over a mapping a loop has a row for each entry, with its key if asked for. -/
theorem items_mapping {scope : Scope} {written : List (String × Value)}
    (h : scope.find? run.iterable = some (.mapping written)) :
    run.items scope = .ok ((Assoc.ofEntries written).map fun entry =>
      (run.keyName?.map fun _ => entry.1, entry.2)) := by
  rw [items]
  cases run.keyName? with
  | none =>
    rw [Scope.items, Scope.view, Scope.lookup, h]
    exact congrArg Except.ok (List.map_map ..)
  | some key =>
    rw [Scope.entries, Scope.view, Scope.lookup, h]
    rfl

/-- **The key of a round is seen by its own name only.** -/
theorem agreeOn_bindings (hkey : run.keyName? = some key) (scope : Scope) (round : Nat)
    (entry : String × Value) :
    Scope.AgreeOn (·.head ≠ key) (scope.derive (run.bindings round (some entry.1) entry.2))
      (scope.derive (run.withoutKey.bindings round none entry.2)) := by
  intro p hp
  have hhidden : ((scope.derive [(run.valueName, entry.2)]).derive [(key, .string entry.1)]).top? p.head =
      (scope.derive [(run.valueName, entry.2)]).top? p.head := by
    rw [Scope.top?_derive_singleton, if_neg (Ne.symm hp)]
  unfold bindings
  rw [hkey]
  exact Scope.top?_derive_congr hhidden _

theorem agreeOn_scopesFrom (hkey : run.keyName? = some key) (scope : Scope) (fields : Assoc Value) :
    ∀ round : Nat, List.Forall₂ (Scope.AgreeOn (·.head ≠ key))
      (run.scopesFrom scope round (fields.map fun entry => (some entry.1, entry.2)))
      (run.withoutKey.scopesFrom scope round (fields.map fun entry => (none, entry.2))) := by
  induction fields with
  | nil => exact fun _ => .nil
  | cons entry rest ih => exact fun round => .cons (agreeOn_bindings hkey scope round entry) (ih (round + 1))

end Loop

namespace Entry

variable {N : Type} [Host N]

/-- **A loop that asks for keys in vain comes to what it does without.** -/
theorem output_loop_withoutKey {scope : Scope} {run : Loop} {key : String}
    {written : List (String × Value)} (hkey : run.keyName? = some key)
    (hmapping : scope.find? run.iterable = some (.mapping written)) {body : List (Entry N)}
    (hunused : ∀ p, Uses body p → p.head ≠ key) (otherwise? : Option (List (Entry N))) :
    ((flow (.loop run body otherwise?)).output scope).SameUpTo RenderError.SameButNames
      ((flow (.loop run.withoutKey body otherwise?)).output scope) := by
  have hkeys := Loop.items_mapping hmapping
  have hvalues : run.withoutKey.items scope = _ := Loop.items_mapping hmapping
  rw [hkey] at hkeys
  rw [output_loop_items, output_loop_items, hkeys, hvalues, Output.given_ok, Output.given_ok,
    List.isEmpty_map, List.isEmpty_map]
  split
  · cases otherwise? with
    | none => exact .complete []
    | some other =>
      rw [outputOption_some]
      exact (steady other scope scope fun _ _ => rfl).outputs
  · refine .rounds run.toTop ?_
    rw [List.forall₂_map_left_iff, List.forall₂_map_right_iff]
    refine (Loop.agreeOn_scopesFrom hkey scope _ 0).imp fun a b hagree => ?_
    exact (steady body a b fun p hp => hagree p (hunused p hp)).outputs

/-- **Keys that nobody asks for make no difference.**  Over a mapping, a loop whose body has no path that
begins with the name of the key hands out what it does without the key: plain or to the top, counted or
not, whatever names it shares with the key, and also where there are no entries.  Only the names that were
in scope, which the error of an undefined path lists, may differ. -/
theorem items_renderFlow_withoutKey {scope : Scope} {run : Loop} {key : String}
    {written : List (String × Value)} (hkey : run.keyName? = some key)
    (hmapping : scope.find? run.iterable = some (.mapping written)) {body : List (Entry N)}
    (hunused : ∀ p, Uses body p → p.head ≠ key) (otherwise? : Option (List (Entry N))) :
    List.Forall₂ (Except.SameUpTo RenderError.SameButNames)
      (Step.items (renderFlow scope (.loop run body otherwise?)).steps)
      (Step.items (renderFlow scope (.loop run.withoutKey body otherwise?)).steps) := by
  rw [items_renderFlow, items_renderFlow]
  exact (output_loop_withoutKey hkey hmapping hunused otherwise?).items

/-- Two entries, the second one without an age: the rounds of both loops come to the same, and the error
behind them lists the key or does not. -/
theorem items_renderFlow_withoutKey_age :
    let run : Loop := ⟨⟨"users"⟩, "user", some "key", some ⟨"i", .ofInt 1, .ofInt 1⟩, false⟩
    let body : List (Entry Node) := [.leaf ⟨[("", ⟨"i"⟩), (".", ⟨"user.age"⟩)], ""⟩]
    let written : List (String × Value) := [("a", .mapping [("age", .string "3")]), ("b", .null)]
    let scope : Scope := .ofRoot (.mapping [("users", .mapping written)])
    run.keyName? = some "key" ∧ scope.find? run.iterable = some (.mapping written) ∧
      (∀ p, Uses body p → p.head ≠ "key") ∧
      Step.items (renderFlow scope (.loop run body none)).steps =
        [.ok (.text "1.3"), .error (.path (.undefined ⟨"user.age"⟩ ["i", "key", "user", "users"]))] ∧
      Step.items (renderFlow scope (.loop run.withoutKey body none)).steps =
        [.ok (.text "1.3"), .error (.path (.undefined ⟨"user.age"⟩ ["i", "user", "users"]))] ∧
      List.Forall₂ (Except.SameUpTo RenderError.SameButNames)
        (Step.items (renderFlow scope (.loop run body none)).steps)
        (Step.items (renderFlow scope (.loop run.withoutKey body none)).steps) := by
  intro run body written scope
  have hmapping : scope.find? run.iterable = some (.mapping written) := by
    simp only [scope, run, written]
    rfl
  have hunused : ∀ p, Uses body p → p.head ≠ "key" := by
    intro p hp
    have hcases : p = ⟨"i"⟩ ∨ p = ⟨"user.age"⟩ := by
      simpa [body, Entry.ownPaths, Entry.parts, Interpolation.paths] using hp
    obtain rfl | rfl := hcases <;> decide +kernel
  refine ⟨rfl, hmapping, hunused, ?_, ?_, items_renderFlow_withoutKey rfl hmapping hunused none⟩
  · simp only [scope, run, body, written]
    decide +kernel
  · simp only [scope, run, body, written]
    decide +kernel

end Entry

end Stencil
