import Mathlib.Data.List.Forall2
import Stencil.Proofs.Condition.Conjunction
import Stencil.Proofs.Value.Equality
import Stencil.Render.Entry

/-!
# Proofs/Condition/Literals — literals and the texts they stand for

    literal ──Operand.Restated──▸ path to its text : the same forms, the same number

A literal has the text and the numbers of the string that says the same.  So it can be moved into the data
and a path be written in its place (`Operand.Restated`), for as many operands as one likes: each conjunct
comes to what it did, and with the conjuncts the condition (`Condition.evaluate_congr`); and so does the
guard of each case of a switch.
-/

namespace Stencil

/-! ## Operands -/

/-- An operand that is kept, or a literal and a path that leads to its text. -/
inductive Operand.Restated (scope : Scope) : Operand → Operand → Prop
  | kept (operand : Operand) : Restated scope operand operand
  | stored {text : String} {p : Path} (h : scope.lookup p = .ok (.string text)) :
      Restated scope (.literal text) (.path p)

namespace Operand.Restated

variable {scope : Scope} {a b : Operand} (h : Restated scope a b)
include h

/-- **The text and the number it may spell** are those of the literal. -/
theorem forms : a.forms scope = b.forms scope := by
  cases h with
  | kept => rfl
  | @stored text p hp =>
    have hvalue : (path p).value? scope = some (.string text) := Scope.lookup_eq_ok.1 hp
    exact (forms_eq_ok.2 ⟨.string text, hvalue, rfl, rfl⟩).symm

/-- **The number**, read leniently, is that of the literal. -/
theorem double : a.double scope = b.double scope := by
  cases h with
  | kept => rfl
  | stored hp =>
    rw [Operand.double, Operand.double, Scope.double, Scope.view, hp]
    rfl

theorem equals (p : Path) : scope.equals p a = scope.equals p b := by
  rw [Scope.equals, Scope.equals, h.forms]

end Operand.Restated

/-! ## Conditions -/

/-- Two conditions of which the second asks the same, with operands restated. -/
structure Condition.Restated (scope : Scope) (a b : Condition) : Prop where
  test : a.test = b.test
  equal : Option.Rel (Operand.Restated scope) a.equal? b.equal?
  comparisons : List.Forall₂ (fun x y => x.1 = y.1 ∧ Operand.Restated scope x.2 y.2)
    a.comparisons b.comparisons
  null : a.null = b.null
  negated : a.negated = b.negated

/-- Tests that come to the same one by one do so as a conjunction. -/
theorem Conjunct.allM_congr {scope : Scope} {p : Path} {tests tests' : List Conjunct}
    (h : List.Forall₂ (fun x y => x.holds scope p = y.holds scope p) tests tests') :
    tests.allM (·.holds scope p) = tests'.allM (·.holds scope p) := by
  induction h with
  | nil => rfl
  | cons hfirst _ ih => rw [List.allM_cons, List.allM_cons, hfirst, ih]

namespace Condition

variable {scope : Scope} {a b : Condition}

/-- **Conjuncts that come to the same one by one** make conditions that do. -/
theorem evaluate_congr (htest : a.test = b.test) (hnull : a.null = b.null)
    (hnegated : a.negated = b.negated)
    (h : List.Forall₂ (fun x y => x.holds scope b.test = y.holds scope b.test)
      a.conjuncts b.conjuncts) :
    a.evaluate scope = b.evaluate scope := by
  have hempty : a.conjuncts.isEmpty = b.conjuncts.isEmpty := by
    generalize a.conjuncts = tests at h
    generalize b.conjuncts = tests' at h
    cases h <;> rfl
  simp only [evaluate_eq, conjunction, htest, hnull, hnegated, hempty, Conjunct.allM_congr h]

theorem Restated.evaluate (h : Restated scope a b) : a.evaluate scope = b.evaluate scope := by
  refine evaluate_congr h.test h.null h.negated (List.rel_append ?_ ?_)
  · have hequal := h.equal
    generalize a.equal? = x? at hequal
    generalize b.equal? = y? at hequal
    cases hequal with
    | none => exact .nil
    | some hoperand => exact .cons (hoperand.equals b.test) .nil
  · rw [Conjunct.ofComparisons, Conjunct.ofComparisons, List.forall₂_map_left_iff,
      List.forall₂_map_right_iff]
    refine h.comparisons.imp fun x y hxy => ?_
    rw [hxy.1, Conjunct.holds, Conjunct.holds, hxy.2.double]

end Condition

/-! ## Switches -/

/-- Two cases with one body, of which the second has its operand restated. -/
structure Branch.Restated {E : Type} (scope : Scope) (a b : Branch Operand E) : Prop where
  guard : a.guard.Restated scope b.guard
  body : a.body = b.body

/-- **A search through restated cases** goes the same way. -/
theorem Entry.renderCases_restated {N : Type} [Host N] {scope : Scope}
    {cases cases' : List (Branch Operand (Entry N))}
    (h : List.Forall₂ (Branch.Restated scope) cases cases') (subject : Path)
    (fallback : Unit → Rendering N) (case : Nat) :
    renderCases scope subject case cases fallback = renderCases scope subject case cases' fallback := by
  induction h generalizing case with
  | nil => rfl
  | @cons first first' rest rest' hfirst _ ih =>
    obtain ⟨operand, body⟩ := first
    obtain ⟨operand', body'⟩ := first'
    obtain ⟨hguard, rfl⟩ := hfirst
    rw [renderCases, renderCases, hguard.equals, ih]

/-! ## Literals and paths -/

/-- **A literal may be replaced by a path that leads to its text.**  With any of their operands replaced
so, a condition comes to what it did, be it an outcome or an error, and a switch takes the same case or
fails with the same error, whatever its bodies are. -/
theorem Scope.evaluate_and_switch_restated (scope : Scope) :
    (∀ a b : Condition, a.Restated scope b → a.evaluate scope = b.evaluate scope) ∧
    ∀ {N : Type} [Host N] (subject : Path) (cases cases' : List (Branch Operand (Entry N)))
      (otherwise? : Option (List (Entry N))), List.Forall₂ (Branch.Restated scope) cases cases' →
        Entry.renderFlow scope (.switch subject cases otherwise?) =
          Entry.renderFlow scope (.switch subject cases' otherwise?) := by
  refine ⟨fun a b h => h.evaluate, fun subject cases cases' otherwise? h => ?_⟩
  rw [Entry.renderFlow, Entry.renderFlow, Entry.renderCases_restated h]

/-- A padded number, an infinity and a blank, moved into the data; the blank is no number for equality,
and zero for a comparison. -/
theorem Scope.evaluate_and_switch_restated_padded :
    let scope : Scope := .ofRoot (.mapping [("n", .number (.integer 5)), ("five", .string " 5.0 "),
      ("most", .string "Infinity"), ("blank", .string " ")])
    let literals : Condition :=
      ⟨⟨"n"⟩, some (.literal " 5.0 "), [(.lt, .literal "Infinity"), (.gt, .literal " ")], false, false⟩
    let paths : Condition :=
      ⟨⟨"n"⟩, some (.path ⟨"five"⟩), [(.lt, .path ⟨"most"⟩), (.gt, .literal " ")], false, false⟩
    let cases : List (Branch Operand (Entry Node)) := [⟨.literal " ", []⟩, ⟨.literal " 5.0 ", []⟩]
    let cases' : List (Branch Operand (Entry Node)) := [⟨.path ⟨"blank"⟩, []⟩, ⟨.path ⟨"five"⟩, []⟩]
    literals.Restated scope paths ∧ paths.evaluate scope = .ok true ∧
      List.Forall₂ (Branch.Restated scope) cases cases' ∧
      Step.decisions (Entry.renderFlow scope (.switch ⟨"n"⟩ cases' none)).steps =
        [.caseMatched ⟨"n"⟩ 1] := by
  intro scope literals paths cases cases'
  obtain ⟨hcondition, hswitch⟩ := Scope.evaluate_and_switch_restated scope
  have hpaths : literals.Restated scope paths :=
    ⟨rfl, .some (.stored rfl), .cons ⟨rfl, .stored rfl⟩ (.cons ⟨rfl, .kept _⟩ .nil), rfl, rfl⟩
  have hcases : List.Forall₂ (Branch.Restated scope) cases cases' :=
    .cons ⟨.stored rfl, rfl⟩ (.cons ⟨.stored rfl, rfl⟩ .nil)
  rw [← hcondition literals paths hpaths, ← hswitch ⟨"n"⟩ cases cases' none hcases]
  refine ⟨hpaths, ?_, hcases, ?_⟩
  · simp only [scope, literals]
    decide +kernel
  · simp only [scope, cases]
    decide +kernel

end Stencil
