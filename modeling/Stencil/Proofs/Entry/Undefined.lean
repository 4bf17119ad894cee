import Stencil.Node.Basic
import Stencil.Proofs.Entry.Output

/-!
# Proofs/Entry/Undefined — directives whose paths lead nowhere

Whether and how often a body of a directive is rendered is up to the values at some of its paths
(`Flow.controls`).  If one of these paths leads nowhere, the directive comes to that error alone, whatever
its bodies are (`Entry.steps_renderFlow_of_lost`).  A switch without cases is the exception: it compares
its subject with nothing, so it does not look it up and goes on to its default.
-/

namespace Stencil

/-! ## Paths that lead nowhere -/

section Lost

variable {scope : Scope} {p : Path}

theorem Scope.lookup_of_lost (h : scope.find? p = none) :
    scope.lookup p = .error (.undefined p scope.available) := by
  rw [lookup, h]

theorem Scope.view_of_lost {α : Type} (h : scope.find? p = none) (expected : Shape)
    (read : Value → Option α) :
    scope.view p expected read = .error (.undefined p scope.available) := by
  rw [view, lookup_of_lost h]

/-- Equality looks up its own path first, whatever the operand. -/
theorem Scope.equals_of_lost (h : scope.find? p = none) (operand : Operand) :
    scope.equals p operand = .error (.undefined p scope.available) := by
  have hown : (Operand.path p).forms scope = .error (.undefined p scope.available) := by
    rw [Operand.forms, string, view_of_lost h]
    rfl
  rw [equals, hown]
  rfl

/-- A condition looks up its test first, whatever it asks of the value. -/
theorem Condition.evaluate_of_lost {condition : Condition} (h : scope.find? condition.test = none) :
    condition.evaluate scope = .error (.undefined condition.test scope.available) := by
  rw [evaluate, Scope.lookup_of_lost h]
  rfl

theorem Loop.scopes_of_lost {loop : Loop} (h : scope.find? loop.iterable = none) :
    loop.scopes scope = .error (.undefined loop.iterable scope.available) := by
  have hitems : loop.items scope = .error (.undefined loop.iterable scope.available) := by
    rw [items]
    split
    · rw [Scope.entries, Scope.view_of_lost h]
      rfl
    · rw [Scope.items, Scope.view_of_lost h]
      rfl
  rw [scopes, hitems]
  rfl

/-- The first of some paths that leads nowhere. -/
def Scope.lost? (scope : Scope) (paths : List Path) : Option Path :=
  paths.find? fun p => (scope.find? p).isNone

@[simp] theorem Scope.lost?_singleton {q : Path} :
    scope.lost? [q] = some p ↔ scope.find? p = none ∧ q = p := by
  rw [lost?, List.find?_singleton, Option.ite_none_right_eq_some, Option.isNone_iff_eq_none,
    Option.some.injEq]
  constructor
  · rintro ⟨hq, rfl⟩
    exact ⟨hq, rfl⟩
  · rintro ⟨hp, rfl⟩
    exact ⟨hp, rfl⟩

/-- **Names are bound from left to right**, up to the first path that leads nowhere. -/
theorem Scope.values_of_lost {bindings : List (String × Path)}
    (h : scope.lost? (bindings.map Prod.snd) = some p) :
    scope.values bindings = .error (.undefined p scope.available) := by
  induction bindings with
  | nil => exact absurd h (Option.some_ne_none p).symm
  | cons binding rest ih =>
    obtain ⟨name, q⟩ := binding
    rw [values, List.mapM_cons]
    cases hq : scope.find? q with
    | none =>
      have hfirst : scope.lost? (q :: rest.map Prod.snd) = some q :=
        List.find?_cons_of_pos (by rw [hq, Option.isNone_none])
      obtain rfl : q = p := Option.some.inj (hfirst.symm.trans h)
      rw [lookup_of_lost hq]
      rfl
    | some value =>
      have hskip : scope.lost? (q :: rest.map Prod.snd) = scope.lost? (rest.map Prod.snd) :=
        List.find?_cons_of_neg (by rw [hq]; exact Bool.false_ne_true)
      have hrest := ih (hskip.symm.trans h)
      rw [values] at hrest
      rw [hrest, lookup, hq]
      rfl

end Lost

/-! ## Directives -/

/-- The paths whose values decide about the bodies of a directive, in the order they are looked up. -/
def Flow.controls {E : Type} : Flow E → List Path
  | .conditional condition _ _ _ => [condition.test]
  | .loop run _ _ => [run.iterable]
  | .binding bindings _ => bindings.map Prod.snd
  | .switch subject _ _ => [subject]

/-- Whether a directive looks up its paths at all: a switch does so case by case. -/
def Flow.consults {E : Type} : Flow E → Bool
  | .switch _ cases _ => !cases.isEmpty
  | _ => true

namespace Entry

variable {N : Type} [Host N]

/-- **No path that leads nowhere is passed over**: a directive that looks its paths up comes to the error
of the first that leads nowhere and takes no decision before, whatever its branches and bodies are. -/
theorem steps_renderFlow_of_lost (scope : Scope) (f : Flow (Entry N)) {p : Path}
    (hconsults : f.consults = true) (hlost : scope.lost? f.controls = some p) :
    (renderFlow scope f).steps = [.item (.error (.path (.undefined p scope.available)))] := by
  cases f with
  | conditional condition body elseIfs otherwise? =>
    obtain ⟨hp, rfl⟩ := Scope.lost?_singleton.1 hlost
    rw [renderFlow, Condition.evaluate_of_lost hp]
    rfl
  | loop run body otherwise? =>
    obtain ⟨hp, rfl⟩ := Scope.lost?_singleton.1 hlost
    rw [renderFlow, Loop.scopes_of_lost hp]
    rfl
  | binding bindings body =>
    have hvalues : scope.values bindings = .error (.undefined p scope.available) :=
      Scope.values_of_lost hlost
    rw [Scope.values] at hvalues
    rw [renderFlow, hvalues]
    rfl
  | switch subject cases otherwise? =>
    obtain ⟨hp, rfl⟩ := Scope.lost?_singleton.1 hlost
    obtain _ | ⟨⟨operand, body⟩, rest⟩ := cases
    · exact absurd hconsults Bool.false_ne_true
    · rw [renderFlow, renderCases, Scope.equals_of_lost hp]
      rfl

/-- The second of two bindings leads nowhere, and the body, though empty, does not hide it. -/
theorem steps_renderFlow_of_lost_binding :
    let f : Flow (Entry Node) := .binding [("x", ⟨"a"⟩), ("y", ⟨" a.b "⟩)] []
    let scope : Scope := .ofRoot (.mapping [("a", .string "1")])
    f.consults = true ∧ scope.lost? f.controls = some ⟨" a.b "⟩ ∧
      (renderFlow scope f).steps = [.item (.error (.path (.undefined ⟨" a.b "⟩ ["a"])))] := by
  intro f scope
  have hlost : scope.lost? f.controls = some ⟨" a.b "⟩ := rfl
  exact ⟨rfl, hlost, steps_renderFlow_of_lost scope f rfl hlost⟩

/-- A switch without cases is rendered to its default, wherever its subject leads. -/
theorem renderFlow_switch_nil (scope : Scope) (subject : Path) (otherwise? : Option (List (Entry N))) :
    renderFlow scope (.switch subject [] otherwise?) =
      .decision (.noCase subject otherwise?.isSome) fun _ => renderOption scope otherwise? := by
  rw [renderFlow, renderCases]

/-- So a default is filled in for a subject that leads nowhere. -/
theorem items_renderFlow_switch_default :
    let f : Flow (Entry Node) := .switch ⟨"missing"⟩ [] (some [.static (.text "shown")])
    let scope : Scope := .ofRoot (.mapping [("a", .string "1")])
    scope.lost? f.controls = some ⟨"missing"⟩ ∧
      Step.items (renderFlow scope f).steps = [.ok (.text "shown")] ∧
      Step.items (renderFlow scope f).steps ≠ [.error (.path (.undefined ⟨"missing"⟩ scope.available))] := by
  intro f scope
  have hitems : Step.items (renderFlow scope f).steps = [.ok (.text "shown")] := by
    rw [renderFlow_switch_nil]
    rfl
  refine ⟨rfl, hitems, ?_⟩
  rw [hitems]
  simp

end Entry

end Stencil
