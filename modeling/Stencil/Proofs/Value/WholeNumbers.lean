import Stencil.Proofs.Entry.Nesting
import Stencil.Proofs.Entry.Selection
import Stencil.Proofs.Number.Order

/-!
# Proofs/Value/WholeNumbers — comparing whole numbers

A whole number is compared as the double nearest to it, be it in the data or spelled by a literal.  So
the tests on two whole numbers come out as they do on the numbers themselves, except that numbers with
one double in common count as equal.
-/

namespace Stencil

/-- Whether two whole numbers compare so. -/
def Comparison.holdsWhole : Comparison → Int → Int → Bool
  | gt, a, b => decide (b < a)
  | ge, a, b => decide (b ≤ a)
  | lt, a, b => decide (a < b)
  | le, a, b => decide (a ≤ b)

/-- An operand that stands for a whole number: a path that leads to it, or a literal with its digits. -/
inductive Operand.Whole (scope : Scope) (b : Int) : Operand → Prop
  | path {q : Path} (h : scope.lookup q = .ok (.number (.integer b))) : Whole scope b (.path q)
  | literal : Whole scope b (.literal (String.ofList (Number.wholeText b)))

/-- The condition that a value compares so with an operand. -/
def Condition.comparing (subject : Path) (comparison : Comparison) (operand : Operand) : Condition :=
  ⟨subject, none, [(comparison, operand)], false, false⟩

/-! ## The doubles compared -/

namespace Double

theorem equals_ofInt (a b : Int) : (ofInt a).equals (ofInt b) = decide (a = seenBeside a b) := by
  rw [equals_eq_decide (ofInt_ne_nan a) (ofInt_ne_nan b), decide_eq_decide, ← Int.compare_eq_eq,
    compare_position_ofInt, Int.compare_eq_eq]

/-- **Doubles nearest to whole numbers compare** like the first one and what the second one counts as. -/
theorem holds_ofInt (comparison : Comparison) (a b : Int) :
    comparison.holds (ofInt a) (ofInt b) = comparison.holdsWhole a (seenBeside a b) := by
  have ha := ofInt_ne_nan a
  have hb := ofInt_ne_nan b
  have hlt : (ofInt a).position < (ofInt b).position ↔ a < seenBeside a b := by
    rw [← Int.compare_eq_lt, compare_position_ofInt, Int.compare_eq_lt]
  have hgt : (ofInt b).position < (ofInt a).position ↔ seenBeside a b < a := by
    rw [← Int.compare_eq_gt, compare_position_ofInt, Int.compare_eq_gt]
  rcases comparison with _ | _ | _ | _
  · exact (below_eq_decide hb ha).trans (decide_eq_decide.2 hgt)
  · refine (atMost_eq_decide hb ha).trans (decide_eq_decide.2 ?_)
    rw [← Int.not_lt, hlt, Int.not_lt]
  · exact (below_eq_decide ha hb).trans (decide_eq_decide.2 hlt)
  · refine (atMost_eq_decide ha hb).trans (decide_eq_decide.2 ?_)
    rw [← Int.not_lt, hgt, Int.not_lt]

end Double

/-! ## The tests of a condition -/

namespace Operand.Whole

variable {scope : Scope} {operand : Operand} {b : Int} (h : Whole scope b operand)
include h

theorem double : operand.double scope = .ok (.ofInt b) := by
  rcases h with h | _
  · rw [Operand.double, Scope.double, Scope.view, h]
    rfl
  · rw [Operand.double, Double.ofText_of_spelled? (Number.spelled?_wholeText b)]

theorem forms : ∃ text, operand.forms scope = .ok (text, some (.ofInt b)) := by
  rcases h with h | _
  · exact ⟨_, Operand.forms_eq_ok.2 ⟨_, Scope.lookup_eq_ok.1 h, rfl, rfl⟩⟩
  · exact ⟨_, Operand.forms_eq_ok.2 ⟨_, rfl, rfl, Number.spelled?_wholeText b⟩⟩

end Operand.Whole

/-- A comparison alone compares the numbers of the value and of the operand. -/
theorem Condition.evaluate_comparing {scope : Scope} {subject : Path} {comparison : Comparison}
    {operand : Operand} {left right : Double} (hleft : scope.double subject = .ok left)
    (hright : operand.double scope = .ok right) :
    (comparing subject comparison operand).evaluate scope = .ok (comparison.holds left right) := by
  have hconjuncts : (comparing subject comparison operand).conjuncts =
      [.comparing comparison operand] := rfl
  rw [evaluate_of_singleton rfl rfl hconjuncts, Conjunct.holds]
  change (scope.double subject >>= _) = _
  rw [hleft, hright]
  rfl

/-! ## Comparing whole numbers -/

/-- **Whole numbers compare exactly where they have two doubles.**  Beside the value of the path the
operand counts as itself, or as this value if one double is nearest to both: so do equality, the
comparisons and the cases of a switch take it.  Up to `2^53` it always counts as itself. -/
theorem Scope.compares_whole (scope : Scope) (p : Path) (a b : Int) (operand : Operand)
    (hp : scope.lookup p = .ok (.number (.integer a))) (hoperand : operand.Whole scope b) :
    (Condition.equalTo p operand).evaluate scope = .ok (decide (a = Double.seenBeside a b)) ∧
    (∀ comparison, (Condition.comparing p comparison operand).evaluate scope =
      .ok (comparison.holdsWhole a (Double.seenBeside a b))) ∧
    (∀ {N : Type} [Host N] (cases : List (Branch Operand (Entry N))) (otherwise? : Option (List (Entry N)))
      (i : Nat) (body : List (Entry N)), cases[i]? = some ⟨operand, body⟩ →
        Entry.Takes (Entry.renderFlow scope (.switch p cases otherwise?)) p i →
          a = Double.seenBeside a b) ∧
    (a.natAbs ≤ twoTo 53 → b.natAbs ≤ twoTo 53 → Double.seenBeside a b = b) := by
  have hown : (Operand.path p).Whole scope a := .path hp
  obtain ⟨ownText, hownForms⟩ := hown.forms
  obtain ⟨text, hforms⟩ := hoperand.forms
  have hequals : scope.equals p operand = .ok (decide (a = Double.seenBeside a b)) := by
    rw [equals, hownForms, hforms, ← Double.equals_ofInt]
    rfl
  refine ⟨?_, fun comparison => ?_, fun cases otherwise? i body hi htakes => ?_, Double.seenBeside_of_small⟩
  · rw [Condition.evaluate_equalTo, hequals]
  · rw [Condition.evaluate_comparing hown.double hoperand.double, Double.holds_ofInt]
  · rw [Entry.renderFlow] at htakes
    obtain ⟨j, branch, rfl, hj, htrue, -⟩ :=
      Entry.taken_renderCases (fun _ h => by simp [Entry.Takes, Rendering.steps] at h) htakes
    rw [Nat.zero_add, hj] at hi
    obtain rfl := Option.some.inj hi
    rw [hequals] at htrue
    exact of_decide_eq_true (Except.ok.inj htrue)

/-- Numbers beyond `2^53` with two doubles: the literal is told apart from the value, below it. -/
theorem Scope.compares_whole_apart :
    let scope : Scope := .ofRoot (.mapping [("a", .number (.integer 9007199254740995))])
    let operand : Operand := .literal "9007199254740993"
    (Condition.equalTo ⟨"a"⟩ operand).evaluate scope = .ok false ∧
      (Condition.comparing ⟨"a"⟩ .gt operand).evaluate scope = .ok true ∧
      ¬ Entry.Takes (Entry.renderFlow scope (.switch ⟨"a"⟩ [⟨operand, ([] : List (Entry Node))⟩] none))
        ⟨"a"⟩ 0 := by
  intro scope operand
  have htext : "9007199254740993" = String.ofList (Number.wholeText 9007199254740993) := by decide +kernel
  have hoperand : operand.Whole scope 9007199254740993 := by
    simp only [operand, htext]
    exact .literal
  have hseen : Double.seenBeside 9007199254740995 9007199254740993 = 9007199254740993 := by decide +kernel
  obtain ⟨hequal, hcompare, hswitch, -⟩ :=
    Scope.compares_whole scope ⟨"a"⟩ 9007199254740995 9007199254740993 operand rfl hoperand
  rw [hseen] at hequal
  refine ⟨hequal, (hcompare .gt).trans (by rw [hseen]; decide +kernel), fun htakes => ?_⟩
  have heq := hswitch [⟨operand, []⟩] none 0 [] rfl htakes
  rw [hseen] at heq
  exact absurd heq (by decide)

/-- Numbers beyond `2^53` with one double: they count as equal, and the larger as not larger. -/
theorem Scope.compares_whole_merged :
    let scope : Scope := .ofRoot (.mapping [("a", .number (.integer 9007199254740993)),
      ("b", .number (.integer 9007199254740992))])
    scope.lookup ⟨"a"⟩ = .ok (.number (.integer 9007199254740993)) ∧
      scope.lookup ⟨"b"⟩ = .ok (.number (.integer 9007199254740992)) ∧
      (9007199254740993 : Int) ≠ 9007199254740992 ∧
      (Condition.equalTo ⟨"a"⟩ (.path ⟨"b"⟩)).evaluate scope = .ok true ∧
      (9007199254740993 : Int) > 9007199254740992 ∧
      (Condition.comparing ⟨"a"⟩ .gt (.literal "9007199254740992")).evaluate scope = .ok false :=
  ⟨rfl, rfl, by decide, by decide +kernel, by decide, by decide +kernel⟩

end Stencil
