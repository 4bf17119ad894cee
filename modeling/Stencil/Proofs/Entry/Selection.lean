import Stencil.Node.Basic
import Stencil.Proofs.Entry.Output
import Stencil.Proofs.Value.Equality

/-!
# Proofs/Entry/Selection — which case a switch takes

A switch takes the first case whose operand is equal to the subject (`Entry.taken_renderCases`), and
equality of scalars is an equivalence relation.  So a case that is equal to an earlier one is never
taken and can as well be left out (`Scope.equals_equivalence`).
-/

namespace Stencil

/-! ## Choosing without a branch -/

namespace Output

variable {N G E : Type} {holds : G → Except PathError Bool} {body : List E → Output N}
  {fallback : Output N}

/-- A branch whose guard fails can be left out. -/
theorem choose_eraseIdx_of_false {late : Branch G E} (hlate : holds late.guard = .ok false) :
    ∀ {branches : List (Branch G E)} {j : Nat}, branches[j]? = some late →
      choose holds body fallback (branches.eraseIdx j) = choose holds body fallback branches
  | [], _, hj => absurd hj.symm (Option.some_ne_none late)
  | branch :: rest, 0, hj => by
    obtain rfl := Option.some.inj hj
    rw [choose, hlate]
    rfl
  | branch :: rest, j + 1, hj => by
    have hrest : rest[j]? = some late := hj
    rw [List.eraseIdx_cons_succ, choose, choose, choose_eraseIdx_of_false hlate hrest]

/-- A branch whose guard fails wherever an earlier guard does can be left out. -/
theorem choose_eraseIdx {early late : Branch G E}
    (himp : holds early.guard = .ok false → holds late.guard = .ok false) :
    ∀ {branches : List (Branch G E)} {i j : Nat}, i < j → branches[i]? = some early →
      branches[j]? = some late →
      choose holds body fallback (branches.eraseIdx j) = choose holds body fallback branches
  | [], _, _, _, _, hj => absurd hj.symm (Option.some_ne_none late)
  | _ :: _, _, 0, hij, _, _ => absurd hij (Nat.not_lt_zero _)
  | branch :: rest, 0, j + 1, _, hi, hj => by
    obtain rfl := Option.some.inj hi
    rw [List.eraseIdx_cons_succ, choose, choose]
    rcases hearly : holds branch.guard with e | _ | _
    · rfl
    · exact choose_eraseIdx_of_false (himp hearly) hj
    · rfl
  | branch :: rest, i + 1, j + 1, hij, hi, hj => by
    have hearly : rest[i]? = some early := hi
    have hlate : rest[j]? = some late := hj
    rw [List.eraseIdx_cons_succ, choose, choose,
      choose_eraseIdx himp (Nat.lt_of_succ_lt_succ hij) hearly hlate]

end Output

/-! ## Equality as an equivalence relation -/

namespace Value

theorem same_self {u : Value} (hu : u.IsScalar) : u.same u = true := (same_eq_true hu hu).2 rfl

/-- Equal scalars are equal to the same scalars. -/
theorem same_congr {u v w : Value} (hu : u.IsScalar) (hv : v.IsScalar) (hw : w.IsScalar)
    (h : u.same v = true) : w.same u = w.same v := by
  rw [Bool.eq_iff_iff, same_eq_true hw hu, same_eq_true hw hv, (same_eq_true hu hv).1 h]

end Value

/-- Operands that stand for equal scalars are equal to the same values. -/
theorem Scope.equals_congr {scope : Scope} {subject : Path} {a b : Operand} {u v : Value} {equal : Bool}
    (ha : a.value? scope = some u) (hb : b.value? scope = some v) (hv : v.IsScalar)
    (hsame : u.same v = true) (h : scope.equals subject a = .ok equal) :
    scope.equals subject b = .ok equal := by
  obtain ⟨w, u', hw, hu', hwscalar, hu'scalar, rfl⟩ := Scope.equals_eq_ok.1 h
  obtain rfl := Option.some.inj (hu'.symm.trans ha)
  exact Scope.equals_eq_ok.2
    ⟨w, v, hw, hb, hwscalar, hv, (Value.same_congr hu'scalar hv hwscalar hsame).symm⟩

namespace Entry

variable {N : Type} [Host N]

/-! ## The case that is taken -/

/-- The rendering begins with the choice of this case. -/
def Takes (r : Rendering N) (subject : Path) (case : Nat) : Prop :=
  r.steps.head? = some (.decision (.caseMatched subject case))

/-- **The case that is taken** is equal to the subject, and no case before it is. -/
theorem taken_renderCases {scope : Scope} {subject : Path} {fallback : Unit → Rendering N}
    (hfallback : ∀ case, ¬ Takes (fallback ()) subject case) {taken : Nat} :
    ∀ {cases : List (Branch Operand (Entry N))} {n : Nat},
      Takes (renderCases scope subject n cases fallback) subject taken →
        ∃ j branch, taken = n + j ∧ cases[j]? = some branch ∧
          scope.equals subject branch.guard = .ok true ∧
          ∀ i earlier, i < j → cases[i]? = some earlier →
            scope.equals subject earlier.guard = .ok false
  | [], n, h => by
    rw [renderCases] at h
    exact absurd h (hfallback taken)
  | branch :: rest, n, h => by
    rw [Takes, renderCases] at h
    rcases hequal : scope.equals subject branch.guard with e | _ | _
    · simp [hequal, Rendering.fail, Rendering.single, Rendering.steps] at h
    · simp only [hequal] at h
      obtain ⟨j, later, rfl, hj, htrue, hbefore⟩ := taken_renderCases hfallback h
      refine ⟨j + 1, later, by omega, hj, htrue, fun i earlier hi hearlier => ?_⟩
      rcases i with _ | i
      · obtain rfl := Option.some.inj hearlier
        exact hequal
      · exact hbefore i earlier (Nat.lt_of_succ_lt_succ hi) hearlier
    · simp only [hequal, Rendering.steps, List.head?_cons, Option.some.injEq, Step.decision.injEq,
        Decision.caseMatched.injEq, true_and] at h
      exact ⟨0, branch, h.symm, rfl, hequal, fun i _ hi => absurd hi (Nat.not_lt_zero i)⟩

end Entry

/-- **Equality of scalars is an equivalence relation**, and a switch never takes a case whose operand is
equal to an earlier one.  Equality at two paths with scalars is decided by these scalars; that a case is
not taken says that the rendering does not begin with this choice, and that it comes to the same
without the case. -/
theorem Scope.equals_equivalence :
    (∀ (scope : Scope) (p q : Path) (u v : Value), scope.find? p = some u → scope.find? q = some v →
      u.IsScalar → v.IsScalar → scope.equals p (.path q) = .ok (u.same v)) ∧
    Equivalence (fun u v : { v : Value // v.IsScalar } => u.1.same v.1 = true) ∧
    ∀ {N : Type} [Host N] (scope : Scope) (subject : Path) (cases : List (Branch Operand (Entry N)))
      (otherwise? : Option (List (Entry N))) (i j : Nat) (early late : Branch Operand (Entry N))
      (u v : Value), i < j → cases[i]? = some early → cases[j]? = some late →
      early.guard.value? scope = some u → late.guard.value? scope = some v →
      u.IsScalar → v.IsScalar → u.same v = true →
      ¬ Entry.Takes (Entry.renderFlow scope (.switch subject cases otherwise?)) subject j ∧
      (Entry.flow (.switch subject (cases.eraseIdx j) otherwise?)).output scope =
        (Entry.flow (.switch subject cases otherwise?)).output scope := by
  refine ⟨fun scope p q u v hu hv huscalar hvscalar =>
    Scope.equals_eq_ok.2 ⟨u, v, hu, hv, huscalar, hvscalar, rfl⟩, ⟨fun u => ?_, ?_, ?_⟩, ?_⟩
  · exact Value.same_self u.2
  · intro u v h
    exact (Value.same_congr u.2 v.2 v.2 h).trans (Value.same_self v.2)
  · intro u v w huv hvw
    exact (Value.same_congr v.2 w.2 u.2 hvw).symm.trans huv
  · intro N _ scope subject cases otherwise? i j early late u v hij hi hj hu hv huscalar hvscalar hsame
    have himp : scope.equals subject early.guard = .ok false →
        scope.equals subject late.guard = .ok false := Scope.equals_congr hu hv hvscalar hsame
    refine ⟨fun htaken => ?_, ?_⟩
    · rw [Entry.renderFlow] at htaken
      obtain ⟨j', taken, rfl, hj', htrue, hbefore⟩ :=
        Entry.taken_renderCases (fun _ h => by simp [Entry.Takes, Rendering.steps] at h) htaken
      rw [Nat.zero_add] at hij hj
      obtain rfl := Option.some.inj (hj'.symm.trans hj)
      rw [himp (hbefore i early hij hi)] at htrue
      simp at htrue
    · rw [Entry.output_switch, Entry.output_switch]
      exact Output.choose_eraseIdx himp hij hi hj

/-- The number two, a text and a literal that spell it: the case of the text is not taken behind the one
of the literal. -/
theorem Scope.equals_equivalence_two :
    let two : Value := .number (.integer 2)
    let spelled : Value := .string " 2.0 "
    let scope : Scope := .ofRoot (.mapping [("two", two), ("spelled", spelled)])
    let cases : List (Branch Operand (Entry Node)) :=
      [⟨.literal "two", []⟩, ⟨.literal "+2", []⟩, ⟨.path ⟨"spelled"⟩, []⟩]
    scope.equals ⟨"two"⟩ (.path ⟨"spelled"⟩) = .ok true ∧ spelled.same two = true ∧
      ¬ Entry.Takes (Entry.renderFlow scope (.switch ⟨"two"⟩ cases none)) ⟨"two"⟩ 2 := by
  intro two spelled scope cases
  have htwo : two.IsScalar := ⟨by decide, by decide⟩
  have hspelled : spelled.IsScalar := ⟨by decide, by decide⟩
  have hsame : two.same spelled = true := by decide +kernel
  have hequivalence := Scope.equals_equivalence
  refine ⟨(hequivalence.1 scope ⟨"two"⟩ ⟨"spelled"⟩ two spelled rfl rfl htwo hspelled).trans
    (congrArg _ hsame), hequivalence.2.1.symm (x := ⟨two, htwo⟩) (y := ⟨spelled, hspelled⟩) hsame, ?_⟩
  exact (hequivalence.2.2 scope ⟨"two"⟩ cases none 1 2 _ _ (.string "+2") spelled (by decide) rfl rfl
    rfl rfl ⟨by decide, by decide⟩ hspelled (by decide +kernel)).1

end Stencil
