import Mathlib.Data.List.Basic
import Stencil.Node.Basic
import Stencil.Proofs.Condition.Conjunction
import Stencil.Proofs.Entry.Settled

/-!
# Proofs/Entry/Nesting — chains and switches as two-way conditionals

    switch ──equality as a condition──▸ chain ──else bodies──▸ a conditional in a conditional in …

A chain and a switch are both a choice (`Output.choose`), with conditions and with operands for guards, and
a condition that tests for equality alone is as good a guard as its operand (`Condition.evaluate_equalTo`).
A choice is settled by its first guard that does not fail, whatever stands behind it.
-/

namespace Stencil

/-- The condition that a value is equal to an operand. -/
def Condition.equalTo (subject : Path) (operand : Operand) : Condition :=
  ⟨subject, some operand, [], false, false⟩

/-- **A test for equality alone** looks its value up once more, and comes to the same. -/
theorem Condition.evaluate_equalTo (scope : Scope) (subject : Path) (operand : Operand) :
    (Condition.equalTo subject operand).evaluate scope = scope.equals subject operand := by
  have hconjuncts : (equalTo subject operand).conjuncts = [.equal operand] := rfl
  exact evaluate_of_singleton rfl rfl hconjuncts

/-! ## Choices -/

/-- A branch whose guard is the first one that does not fail. -/
structure Deciding {G E : Type} (holds : G → Except PathError Bool) (front : List (Branch G E))
    (branch : Branch G E) : Prop where
  fails : ∀ earlier ∈ front, holds earlier.guard = .ok false
  decides : holds branch.guard ≠ .ok false

theorem Deciding.tail {G E : Type} {holds : G → Except PathError Bool} {first branch : Branch G E}
    {front : List (Branch G E)} (h : Deciding holds (first :: front) branch) : Deciding holds front branch :=
  ⟨fun earlier hearlier => h.fails earlier (.tail _ hearlier), h.decides⟩

namespace Output

variable {N : Type}

/-- Guards that come to the same make the same choice. -/
theorem choose_map {G G' E : Type} {holds : G → Except PathError Bool} (holds' : G' → Except PathError Bool)
    (f : G → G') (h : ∀ guard, holds' (f guard) = holds guard) (body : List E → Output N)
    (fallback : Output N) (branches : List (Branch G E)) :
    choose holds' body fallback (branches.map fun branch => ⟨f branch.guard, branch.body⟩) =
      choose holds body fallback branches := by
  induction branches with
  | nil => rfl
  | cons branch rest ih => rw [List.map_cons, choose, choose, h, ih]

end Output

namespace Entry

variable {N : Type} [Host N] (scope : Scope)

/-! ## One conditional in another -/

/-- A chain with each branch in the other body of the one before it. -/
def nested (condition : Condition) (body : List (Entry N)) :
    List (Branch Condition (Entry N)) → Option (List (Entry N)) → Flow (Entry N)
  | [], otherwise? => .conditional condition body [] otherwise?
  | branch :: rest, otherwise? =>
      .conditional condition body [] (some [.flow (nested branch.guard branch.body rest otherwise?)])

theorem output_nested (condition : Condition) (body : List (Entry N))
    (elseIfs : List (Branch Condition (Entry N))) (otherwise? : Option (List (Entry N))) :
    (flow (nested condition body elseIfs otherwise?)).output scope =
      .choose (·.evaluate scope) (outputs scope) (outputOption scope otherwise?)
        (⟨condition, body⟩ :: elseIfs) := by
  induction elseIfs generalizing condition body with
  | nil => exact output_conditional scope condition body [] otherwise?
  | cons branch rest ih =>
    rw [nested, output_conditional, outputOption_some, outputs_cons, ih, outputs_nil, Output.append_nil]
    rfl

/-- A switch as a chain that tests the subject for each operand. -/
def asChain (subject : Path) (first : Branch Operand (Entry N)) (rest : List (Branch Operand (Entry N)))
    (otherwise? : Option (List (Entry N))) : Flow (Entry N) :=
  .conditional (.equalTo subject first.guard) first.body
    (rest.map fun case => ⟨.equalTo subject case.guard, case.body⟩) otherwise?

/-! ## What stands behind the branch that decides -/

/-- Behind the branch that decides, nothing counts. -/
theorem renderElseIfs_of_deciding {front : List (Branch Condition (Entry N))}
    {branch : Branch Condition (Entry N)} (h : Deciding (·.evaluate scope) front branch)
    (back back' : List (Branch Condition (Entry N))) (fallback fallback' : Unit → Rendering N) (n : Nat) :
    renderElseIfs scope n (front ++ branch :: back) fallback =
      renderElseIfs scope n (front ++ branch :: back') fallback' := by
  induction front generalizing n with
  | nil =>
    obtain ⟨condition, body⟩ := branch
    rw [List.nil_append, List.nil_append, renderElseIfs, renderElseIfs]
    rcases hcondition : condition.evaluate scope with e | _ | _
    · rfl
    · exact absurd hcondition h.decides
    · rfl
  | cons earlier rest ih =>
    obtain ⟨condition, body⟩ := earlier
    have hfails : condition.evaluate scope = .ok false := h.fails ⟨condition, body⟩ (.head rest)
    simp only [List.cons_append, renderElseIfs, hfails]
    exact ih h.tail (n + 1)

theorem renderCases_of_deciding {subject : Path} {front : List (Branch Operand (Entry N))}
    {branch : Branch Operand (Entry N)} (h : Deciding (scope.equals subject) front branch)
    (back back' : List (Branch Operand (Entry N))) (fallback fallback' : Unit → Rendering N) (n : Nat) :
    renderCases scope subject n (front ++ branch :: back) fallback =
      renderCases scope subject n (front ++ branch :: back') fallback' := by
  induction front generalizing n with
  | nil =>
    obtain ⟨operand, body⟩ := branch
    rw [List.nil_append, List.nil_append, renderCases, renderCases]
    rcases hequal : scope.equals subject operand with e | _ | _
    · rfl
    · exact absurd hequal h.decides
    · rfl
  | cons earlier rest ih =>
    obtain ⟨operand, body⟩ := earlier
    have hfails : scope.equals subject operand = .ok false := h.fails ⟨operand, body⟩ (.head rest)
    simp only [List.cons_append, renderCases, hfails]
    exact ih h.tail (n + 1)

/-- **Chains and switches are nested two-way conditionals**: a chain hands out what its branches do one inside
the other, and a switch what the chain does that tests its subject.  Errors included: branches behind the
one that decides, be it that it is taken or that it cannot be read, can be exchanged for any others. -/
theorem items_renderFlow_nested :
    (∀ (condition : Condition) (body : List (Entry N)) (elseIfs : List (Branch Condition (Entry N)))
      (otherwise? : Option (List (Entry N))),
      Step.items (renderFlow scope (.conditional condition body elseIfs otherwise?)).steps =
        Step.items (renderFlow scope (nested condition body elseIfs otherwise?)).steps ∧
      (condition.evaluate scope ≠ .ok false → ∀ elseIfs' otherwise'?,
        renderFlow scope (.conditional condition body elseIfs' otherwise'?) =
          renderFlow scope (.conditional condition body elseIfs otherwise?)) ∧
      ∀ front branch back, elseIfs = front ++ branch :: back →
        Deciding (·.evaluate scope) front branch → ∀ back' otherwise'?,
          renderFlow scope (.conditional condition body (front ++ branch :: back') otherwise'?) =
            renderFlow scope (.conditional condition body elseIfs otherwise?)) ∧
    ∀ (subject : Path) (first : Branch Operand (Entry N)) (rest : List (Branch Operand (Entry N)))
      (otherwise? : Option (List (Entry N))),
      Step.items (renderFlow scope (.switch subject (first :: rest) otherwise?)).steps =
        Step.items (renderFlow scope (asChain subject first rest otherwise?)).steps ∧
      ∀ front branch back, first :: rest = front ++ branch :: back →
        Deciding (scope.equals subject) front branch → ∀ back' otherwise'?,
          renderFlow scope (.switch subject (front ++ branch :: back') otherwise'?) =
            renderFlow scope (.switch subject (first :: rest) otherwise?) := by
  refine ⟨fun condition body elseIfs otherwise? => ⟨?_, fun hdecides elseIfs' otherwise'? => ?_, ?_⟩,
    fun subject first rest otherwise? => ⟨?_, ?_⟩⟩
  · rw [items_renderFlow, items_renderFlow, output_conditional, output_nested]
  · rw [renderFlow, renderFlow]
    rcases hcondition : condition.evaluate scope with e | _ | _
    · rfl
    · exact absurd hcondition hdecides
    · rfl
  · rintro front branch back rfl hdeciding back' otherwise'?
    rw [renderFlow, renderFlow]
    rcases condition.evaluate scope with e | _ | _
    · rfl
    · exact renderElseIfs_of_deciding scope hdeciding ..
    · rfl
  · have hguards := Condition.evaluate_equalTo scope subject
    rw [items_renderFlow, items_renderFlow, output_switch, asChain, output_conditional,
      ← Output.choose_map (Condition.evaluate · scope) (Condition.equalTo subject) hguards, List.map_cons]
  · intro front branch back hcases hdeciding back' otherwise'?
    rw [hcases, renderFlow, renderFlow]
    exact renderCases_of_deciding scope hdeciding ..

/-- A chain and a switch of three branches each, of which the second one is taken; the third could not
even be read. -/
theorem items_renderFlow_nested_three :
    let scope : Scope := .ofRoot (.mapping [("no", .bool false), ("two", .number (.integer 2))])
    let isTrue (path : Path) : Condition := ⟨path, none, [], false, false⟩
    let write (text : String) : List (Entry Node) := [.leaf ⟨[], text⟩]
    let second : Branch Condition (Entry Node) := ⟨isTrue ⟨"two"⟩, write "b"⟩
    let taken : Branch Operand (Entry Node) := ⟨.literal "2.0", write "y"⟩
    Deciding (·.evaluate scope) [] second ∧
      Deciding (scope.equals ⟨"two"⟩) [⟨.path ⟨"no"⟩, write "x"⟩] taken ∧
      Step.items (renderFlow scope (nested (isTrue ⟨"no"⟩) (write "a")
        [second, ⟨isTrue ⟨"gone"⟩, write "c"⟩] none)).steps = [.ok (.text "b")] ∧
      renderFlow scope (.conditional (isTrue ⟨"no"⟩) (write "a") [second] (some (write "d"))) =
        renderFlow scope (.conditional (isTrue ⟨"no"⟩) (write "a")
          [second, ⟨isTrue ⟨"gone"⟩, write "c"⟩] none) ∧
      Step.items (renderFlow scope (.switch ⟨"two"⟩
          [⟨.path ⟨"no"⟩, write "x"⟩, taken, ⟨.path ⟨"gone"⟩, write "z"⟩] none)).steps =
        Step.items (renderFlow scope (asChain ⟨"two"⟩ ⟨.path ⟨"no"⟩, write "x"⟩
          [taken, ⟨.path ⟨"gone"⟩, write "z"⟩] none)).steps ∧
      renderFlow scope (.switch ⟨"two"⟩ [⟨.path ⟨"no"⟩, write "x"⟩, taken] (some (write "d"))) =
        renderFlow scope (.switch ⟨"two"⟩
          [⟨.path ⟨"no"⟩, write "x"⟩, taken, ⟨.path ⟨"gone"⟩, write "z"⟩] none) := by
  intro scope isTrue write second taken
  have hsecond : Deciding (·.evaluate scope) [] second :=
    ⟨fun _ h => absurd h List.not_mem_nil, by decide +kernel⟩
  have htaken : Deciding (scope.equals ⟨"two"⟩) [⟨.path ⟨"no"⟩, write "x"⟩] taken :=
    ⟨fun earlier h => by obtain rfl := List.mem_singleton.1 h; decide +kernel, by decide +kernel⟩
  obtain ⟨hchain, hswitch⟩ := items_renderFlow_nested (N := Node) scope
  obtain ⟨-, -, hbehind⟩ := hchain (isTrue ⟨"no"⟩) (write "a") [second, ⟨isTrue ⟨"gone"⟩, write "c"⟩] none
  obtain ⟨hasChain, hcases⟩ := hswitch ⟨"two"⟩ ⟨.path ⟨"no"⟩, write "x"⟩
    [taken, ⟨.path ⟨"gone"⟩, write "z"⟩] none
  exact ⟨hsecond, htaken, by decide +kernel, hbehind [] second _ rfl hsecond [] (some (write "d")), hasChain,
    hcases _ taken _ rfl htaken [] (some (write "d"))⟩

end Entry

end Stencil
