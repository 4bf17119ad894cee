import Mathlib.Data.List.Basic
import Stencil.Proofs.Entry.Undefined
import Stencil.Proofs.Except

/-!
# Proofs/Condition/Conjunction — a condition is the conjunction of its tests

    equality?, comparisons ──conjuncts──▸ tests in order ──allM──▸ whether all hold

Evaluating a condition threads along what the tests made so far came to, if any was made.  That is the
conjunction of the tests from left to right (`Condition.evaluate_eq`), which ends at the first one that is
false or cannot be made (`Except.allM_cons_of_ne_true`).  What a null test or a value without any test
comes to stays outside of it.
-/

namespace Stencil

/-! ## Conjuncts -/

/-- A test on the value of a condition: whether it is equal to an operand or compares with one. -/
inductive Conjunct where
  | equal (operand : Operand)
  | comparing (comparison : Comparison) (operand : Operand)

/-- Whether a conjunct holds of the value at a path. -/
def Conjunct.holds (scope : Scope) (subject : Path) : Conjunct → Except PathError Bool
  | equal operand => scope.equals subject operand
  | comparing comparison operand => do
      let left ← scope.double subject
      let right ← operand.double scope
      .ok (comparison.holds left right)

/-- The comparisons of a condition as conjuncts. -/
def Conjunct.ofComparisons (comparisons : List (Comparison × Operand)) : List Conjunct :=
  comparisons.map fun test => comparing test.1 test.2

namespace Condition

/-- The conjuncts of a condition in the order in which they are due: equality, if asked for, and then
the comparisons. -/
def conjuncts (condition : Condition) : List Conjunct :=
  condition.equal?.toList.map .equal ++ Conjunct.ofComparisons condition.comparisons

/-- **A condition as a conjunction.**  Its test has to be defined.  A null test decides alone; else all
conjuncts have to hold, and without any the value has to be true.  Negation inverts what this comes to. -/
def conjunction (condition : Condition) (scope : Scope) : Except PathError Bool :=
  match scope.find? condition.test with
  | none => .error (.undefined condition.test scope.available)
  | some value =>
      Except.map (· != condition.negated) <|
        if condition.null then .ok value.isNull
        else if condition.conjuncts.isEmpty then .ok value.truthy
        else condition.conjuncts.allM (·.holds scope condition.test)

/-- A condition that asks for what another one asks for and perhaps for more, anywhere among its
conjuncts; neither is negated, and the other one has a conjunct. -/
structure Extends (more condition : Condition) : Prop where
  test : more.test = condition.test
  null : more.null = condition.null
  affirmed : condition.negated = false ∧ more.negated = false
  nonempty : condition.conjuncts ≠ []
  conjuncts : condition.conjuncts ⊆ more.conjuncts

end Condition

/-! ## Test by test -/

section Tests

variable (scope : Scope) (subject : Path)

/-- As long as nothing is false, the next comparison decides how to go on. -/
theorem compareAll_step (comparison : Comparison) (operand : Operand)
    (rest : List (Comparison × Operand)) {sofar : Option Bool} (h : sofar ≠ some false) :
    compareAll scope subject sofar ((comparison, operand) :: rest) =
      ((Conjunct.comparing comparison operand).holds scope subject).bind fun result =>
        compareAll scope subject (some result) rest := by
  rw [compareAll, Conjunct.holds]
  · rcases scope.double subject with e | left
    · rfl
    · rcases operand.double scope with e | right <;> rfl
  · exact h

/-- **Behind a test that was made**, the comparisons are the rest of a conjunction. -/
theorem compareAll_some (sofar : Bool) (comparisons : List (Comparison × Operand)) :
    compareAll scope subject (some sofar) comparisons =
      Except.map some (if sofar then
        (Conjunct.ofComparisons comparisons).allM (·.holds scope subject) else .ok false) := by
  induction comparisons generalizing sofar with
  | nil => cases sofar <;> rfl
  | cons first rest ih =>
    obtain ⟨comparison, operand⟩ := first
    cases sofar with
    | false => rfl
    | true =>
      rw [compareAll_step scope subject comparison operand rest (by simp), if_pos rfl,
        Conjunct.ofComparisons, List.map_cons, List.allM_cons]
      rcases (Conjunct.comparing comparison operand).holds scope subject with e | result
      · rfl
      · refine (ih result).trans ?_
        cases result <;> rfl

end Tests

namespace Condition

/-- The first test is made as if all before it were true. -/
theorem compareAll_equalTest (condition : Condition) (scope : Scope) :
    ((condition.equalTest scope).bind fun sofar =>
        compareAll scope condition.test sofar condition.comparisons) =
      if condition.conjuncts.isEmpty then .ok none
      else Except.map some (condition.conjuncts.allM (·.holds scope condition.test)) := by
  obtain ⟨test, equal?, comparisons, null, negated⟩ := condition
  cases equal? with
  | none =>
    cases comparisons with
    | nil => rfl
    | cons first rest =>
      obtain ⟨comparison, operand⟩ := first
      change compareAll scope test none _ = Except.map some (List.allM _ (Conjunct.ofComparisons _))
      rw [compareAll_step scope test comparison operand rest (by simp),
        ← compareAll_step scope test comparison operand rest (by simp : some true ≠ some false),
        compareAll_some, if_pos rfl]
  | some operand =>
    change (Except.map some (scope.equals test operand)).bind _ =
      Except.map some (List.allM _ (.equal operand :: Conjunct.ofComparisons comparisons))
    rw [List.allM_cons]
    change _ = Except.map some ((scope.equals test operand).bind _)
    rcases scope.equals test operand with e | result
    · rfl
    · refine (compareAll_some scope test result comparisons).trans ?_
      cases result <;> rfl

/-- **Evaluating a condition is evaluating its conjunction.** -/
theorem evaluate_eq (condition : Condition) (scope : Scope) :
    condition.evaluate scope = condition.conjunction scope := by
  rw [evaluate, conjunction, Scope.lookup]
  rcases scope.find? condition.test with _ | value
  · rfl
  · change Except.map (· != condition.negated) (condition.core scope value) = _
    refine congrArg _ ?_
    rw [core]
    split
    · rfl
    · have htests := congrArg (Except.map (·.getD value.truthy))
        (condition.compareAll_equalTest scope)
      refine Eq.trans ?_ (htests.trans ?_)
      · rcases condition.equalTest scope with e | sofar <;> rfl
      · split
        · rfl
        · generalize condition.conjuncts.allM (·.holds scope condition.test) = result
          cases result <;> rfl

end Condition

/-! ## What decides -/

section Decides

variable {scope : Scope} {condition : Condition}

/-- A conjunct looks up the value first, whatever the operand. -/
theorem Conjunct.holds_of_lost {subject : Path} (h : scope.find? subject = none) (test : Conjunct) :
    test.holds scope subject = .error (.undefined subject scope.available) := by
  cases test with
  | equal operand => exact Scope.equals_of_lost h operand
  | comparing comparison operand =>
    rw [holds, Scope.double, Scope.view_of_lost h]
    rfl

namespace Condition

/-- Without a null test the conjuncts decide, if there are any. -/
theorem evaluate_of_conjuncts {value : Value} (hvalue : scope.find? condition.test = some value)
    (hnull : condition.null = false) (hnonempty : condition.conjuncts ≠ []) :
    condition.evaluate scope =
      Except.map (· != condition.negated)
        (condition.conjuncts.allM (·.holds scope condition.test)) := by
  have hsome : condition.conjuncts.isEmpty = false := List.isEmpty_eq_false_iff.2 hnonempty
  simp only [evaluate_eq, conjunction, hvalue, hnull, hsome, Bool.false_eq_true, if_false]

/-- The first conjunct that is not true decides, be it in front of others or not. -/
theorem evaluate_of_first {front back : List Conjunct} {next : Conjunct} (hnull : condition.null = false)
    (hconjuncts : condition.conjuncts = front ++ next :: back)
    (hfront : ∀ test ∈ front, test.holds scope condition.test = .ok true)
    (hnext : next.holds scope condition.test ≠ .ok true) :
    condition.evaluate scope = (next.holds scope condition.test).map (· != condition.negated) := by
  rcases hvalue : scope.find? condition.test with _ | value
  · rw [evaluate_of_lost hvalue, Conjunct.holds_of_lost hvalue]
    rfl
  · have hnonempty : condition.conjuncts ≠ [] := by simp [hconjuncts]
    rw [evaluate_of_conjuncts hvalue hnull hnonempty, hconjuncts, Except.allM_append_of_true hfront,
      Except.allM_cons_of_ne_true hnext]

/-- A condition that is not negated holds if all its conjuncts do. -/
theorem evaluate_eq_ok_true (hnull : condition.null = false) (haffirmed : condition.negated = false)
    (hnonempty : condition.conjuncts ≠ []) :
    condition.evaluate scope = .ok true ↔
      ∀ test ∈ condition.conjuncts, test.holds scope condition.test = .ok true := by
  rcases hvalue : scope.find? condition.test with _ | value
  · obtain ⟨test, htest⟩ := List.exists_mem_of_ne_nil _ hnonempty
    rw [evaluate_of_lost hvalue]
    refine ⟨fun h => (by cases h), fun h => ?_⟩
    have hlost := h test htest
    rw [Conjunct.holds_of_lost hvalue] at hlost
    cases hlost
  · rw [evaluate_of_conjuncts hvalue hnull hnonempty, haffirmed, ← Except.allM_eq_ok_true]
    generalize condition.conjuncts.allM (·.holds scope condition.test) = result
    obtain e | _ | _ := result <;> exact Iff.rfl

/-- One conjunct alone is what a condition comes to. -/
theorem evaluate_of_singleton {test : Conjunct} (hnull : condition.null = false)
    (haffirmed : condition.negated = false) (h : condition.conjuncts = [test]) :
    condition.evaluate scope = test.holds scope condition.test := by
  rcases hvalue : scope.find? condition.test with _ | value
  · rw [evaluate_of_lost hvalue, Conjunct.holds_of_lost hvalue]
  · rw [evaluate_of_conjuncts hvalue hnull (by simp [h]), haffirmed, h, List.allM_cons]
    rcases test.holds scope condition.test with e | _ | _ <;> rfl

/-- Negation inverts the outcome and leaves errors as they are. -/
theorem evaluate_not (condition : Condition) (scope : Scope) :
    { condition with negated := !condition.negated }.evaluate scope =
      (condition.evaluate scope).map (!·) := by
  have hnot : ∀ result : Except PathError Bool,
      result.map (· != !condition.negated) = (result.map (· != condition.negated)).map (!·) := by
    rintro (e | _ | _) <;> cases condition.negated <;> rfl
  rw [evaluate_eq, evaluate_eq, conjunction, conjunction]
  cases scope.find? condition.test with
  | none => rfl
  | some value => exact hnot _

/-- **Asking for more makes nothing true.** -/
theorem Extends.evaluate_of_ok_true {more : Condition} (h : more.Extends condition)
    (htrue : more.evaluate scope = .ok true) : condition.evaluate scope = .ok true := by
  obtain ⟨haffirmed, hmore⟩ := h.affirmed
  cases hnull : condition.null with
  | true =>
    have hsame : more.evaluate scope = condition.evaluate scope := by
      simp only [evaluate_eq, conjunction, h.test, h.null, hnull, haffirmed, hmore, if_true]
    exact hsame ▸ htrue
  | false =>
    have hnonempty : more.conjuncts ≠ [] := fun hnil =>
      h.nonempty (List.eq_nil_of_subset_nil (hnil ▸ h.conjuncts))
    rw [evaluate_eq_ok_true (h.null.trans hnull) hmore hnonempty, h.test] at htrue
    rw [evaluate_eq_ok_true hnull haffirmed h.nonempty]
    exact fun test htest => htrue test (h.conjuncts htest)

/-! ## Short-circuit conjunction -/

/-- **A condition is a conjunction that stops at the first test that decides.**  It comes to
what its conjunction comes to.  Where every test in front is true, a test that is not decides, be it false
or an error: what is behind it does not count, not even a path that leads nowhere or to a value that
cannot be compared.  Negation inverts outcomes and leaves errors alone.  And a condition that asks for
more is true only where the other one is. -/
theorem evaluate_short_circuits (condition : Condition) (scope : Scope) :
    condition.evaluate scope = condition.conjunction scope ∧
    (∀ front next back, condition.null = false → condition.conjuncts = front ++ next :: back →
      (∀ test ∈ front, test.holds scope condition.test = .ok true) →
      next.holds scope condition.test ≠ .ok true →
        condition.evaluate scope =
          (next.holds scope condition.test).map (· != condition.negated)) ∧
    { condition with negated := !condition.negated }.evaluate scope =
      (condition.evaluate scope).map (!·) ∧
    ∀ more : Condition, more.Extends condition →
      more.evaluate scope = .ok true → condition.evaluate scope = .ok true :=
  ⟨condition.evaluate_eq scope,
    fun _ _ _ hnull hconjuncts hfront hnext => evaluate_of_first hnull hconjuncts hfront hnext,
    condition.evaluate_not scope, fun _ hmore htrue => hmore.evaluate_of_ok_true htrue⟩

/-- Text is no number, so the first comparison is false, and a path that leads nowhere stands behind it in
vain.  Of two conditions the one that asks for more holds, and so does the other. -/
theorem evaluate_short_circuits_gone :
    let scope : Scope := .ofRoot (.mapping [("n", .number (.integer 5)), ("all", .sequence [])])
    let condition : Condition := ⟨⟨"n"⟩, some (.literal " 5.0"),
      [(.gt, .literal "five"), (.lt, .path ⟨"gone"⟩), (.ge, .path ⟨"all"⟩)], false, true⟩
    let wanted : Condition := ⟨⟨"n"⟩, none, [(.lt, .literal "6")], false, false⟩
    let more : Condition :=
      ⟨⟨"n"⟩, some (.literal "5"), [(.ge, .path ⟨"n"⟩), (.lt, .literal "6")], false, false⟩
    condition.evaluate scope = .ok true ∧
      more.evaluate scope = .ok true ∧ wanted.evaluate scope = .ok true := by
  intro scope condition wanted more
  obtain ⟨-, hfirst, -⟩ := evaluate_short_circuits condition scope
  obtain ⟨-, -, -, hmore⟩ := evaluate_short_circuits wanted scope
  have htrue : more.evaluate scope = .ok true := by
    simp only [more, scope]
    decide +kernel
  refine ⟨?_, htrue, hmore more ⟨rfl, rfl, ⟨rfl, rfl⟩, ?_, ?_⟩ htrue⟩
  · have hdecided := hfirst [.equal (.literal " 5.0")] (.comparing .gt (.literal "five")) _ rfl rfl
    refine (hdecided ?_ ?_).trans ?_
    · simp only [List.forall_mem_singleton, condition, scope]
      decide +kernel
    · simp only [condition, scope]
      decide +kernel
    · simp only [condition, scope]
      decide +kernel
  · exact List.cons_ne_nil _ _
  · exact fun _ htest => .tail _ (.tail _ htest)

end Condition

end Decides

end Stencil
