import Stencil.Proofs.Entry.Output
import Stencil.Proofs.Entry.Parts
import Stencil.Proofs.Filling

/-!
# Proofs/Entry/Evaluation — which errors the data account for

    entry ──evaluate──▸ the first path that cannot be used
      └─────render────▸ this error, or a want of alignment before it

Evaluating an entry uses its paths in the order of a rendering and builds nothing, so it does not depend on
the kind of tree.  Over any host whatsoever, a rendering that ends with an error about a path ends with the
first one that evaluating comes upon (`Entry.errsLike_output`).
-/

namespace Stencil

/-! ## Evaluating -/

namespace Entry

variable {N : Type}

mutual
/-- **The first use of a path in an entry that fails**, if one does. -/
def evaluate (scope : Scope) : Entry N → Except PathError Unit
  | .static _ => .ok ()
  | .leaf text => (text.render scope).bind fun _ => .ok ()
  | .element _ attributes children =>
      (Filling.values scope attributes).bind fun _ => evaluateEach scope children
  | .flow f => evaluateFlow scope f
/-- The first use of a path in some entries that fails. -/
def evaluateEach (scope : Scope) : List (Entry N) → Except PathError Unit
  | [] => .ok ()
  | entry :: rest => (evaluate scope entry).bind fun _ => evaluateEach scope rest
/-- The first use of a path in a directive that fails. -/
def evaluateFlow (scope : Scope) : Flow (Entry N) → Except PathError Unit
  | .conditional condition body elseIfs otherwise? =>
      (condition.evaluate scope).bind fun holds =>
        if holds then evaluateEach scope body
        else evaluateElseIfs scope (evaluateOption scope otherwise?) elseIfs
  | .loop loop body otherwise? =>
      (loop.scopes scope).bind fun rounds =>
        if rounds.isEmpty then evaluateOption scope otherwise?
        else forM rounds fun round => evaluateEach round body
  | .binding bindings body =>
      (scope.values bindings).bind fun values => evaluateEach (scope.derive values) body
  | .switch subject cases otherwise? =>
      evaluateCases scope subject (evaluateOption scope otherwise?) cases
/-- The first use of a path that fails in the conditions of branches and in the body that is chosen. -/
def evaluateElseIfs (scope : Scope) (fallback : Except PathError Unit) :
    List (Branch Condition (Entry N)) → Except PathError Unit
  | [] => fallback
  | ⟨condition, body⟩ :: rest =>
      (condition.evaluate scope).bind fun holds =>
        if holds then evaluateEach scope body else evaluateElseIfs scope fallback rest
/-- The first use of a path that fails in the comparisons of cases and in the body that is chosen. -/
def evaluateCases (scope : Scope) (subject : Path) (fallback : Except PathError Unit) :
    List (Branch Operand (Entry N)) → Except PathError Unit
  | [] => fallback
  | ⟨operand, body⟩ :: rest =>
      (scope.equals subject operand).bind fun equal =>
        if equal then evaluateEach scope body else evaluateCases scope subject fallback rest
/-- The first use of a path that fails in a body that may be absent. -/
def evaluateOption (scope : Scope) : Option (List (Entry N)) → Except PathError Unit
  | none => .ok ()
  | some body => evaluateEach scope body
end

end Entry

/-! ## Results beside evaluations -/

/-- A result beside an evaluation: it succeeds or fails with the same error, or else it is an error of
entries that do not fit. -/
inductive ErrsLike {α : Type} : Except RenderError α → Except PathError Unit → Prop
  | ok (a : α) : ErrsLike (.ok a) (.ok ())
  | path (p : PathError) : ErrsLike (.error (.path p)) (.error p)
  | misaligned (tag? : Option String) (misfit : Misfit) (evaluation : Except PathError Unit) :
      ErrsLike (.error (.misaligned tag? misfit)) evaluation

namespace ErrsLike

variable {α β γ : Type} {r : Except RenderError α} {v w : Except PathError Unit}

theorem bind {f : α → Except RenderError β} (hr : ErrsLike r v) (hf : ∀ a, ErrsLike (f a) w) :
    ErrsLike (r.bind f) (v.bind fun _ => w) := by
  obtain a | p | ⟨tag?, misfit, _⟩ := hr
  · exact hf a
  · exact path p
  · exact misaligned tag? misfit _

/-- What uses no path changes nothing. -/
theorem andThen {f : α → Except RenderError β} (hr : ErrsLike r v) (hf : ∀ a, ErrsLike (f a) (.ok ())) :
    ErrsLike (r.bind f) v := by
  obtain a | p | ⟨tag?, misfit, _⟩ := hr
  · exact hf a
  · exact path p
  · exact misaligned tag? misfit _

theorem map (f : α → β) (hr : ErrsLike r v) : ErrsLike (r.map f) v := by
  obtain a | p | ⟨tag?, misfit, _⟩ := hr
  · exact ok (f a)
  · exact path p
  · exact misaligned tag? misfit _

/-- A use of a path, and what comes of it. -/
theorem ofPath {x : Except PathError γ} {f : γ → Except RenderError α} {g : γ → Except PathError Unit}
    (h : ∀ c, ErrsLike (f c) (g c)) : ErrsLike ((x.mapError .path).bind f) (x.bind g) := by
  rcases x with p | c
  · exact path p
  · exact h c

end ErrsLike

/-! ## Outputs beside evaluations -/

namespace Output

variable {N γ : Type} {o b : Output N} {v w : Except PathError Unit}

theorem errsLike_append (ho : ErrsLike o.result v) (hb : ErrsLike b.result w) :
    ErrsLike (o ++ b).result (v.bind fun _ => w) := by
  rw [result_append]
  exact ho.bind fun nodes => hb.map (nodes ++ ·)

theorem errsLike_given {x : Except PathError γ} {next : γ → Output N} {g : γ → Except PathError Unit}
    (h : ∀ c, ErrsLike (next c).result (g c)) : ErrsLike (given x next).result (x.bind g) := by
  rcases x with p | c
  · exact .path p
  · exact h c

theorem result_ofResult (r : Except RenderError (List N)) : (ofResult r).result = r := by
  rcases r with e | nodes <;> rfl

/-- The rounds of a loop, in either order, fail where the first of them does. -/
theorem errsLike_rounds {R : Type} (toTop : Bool) {block : R → Output N} {f : R → Except PathError Unit}
    (h : ∀ round, ErrsLike (block round).result (f round)) (rounds : List R) :
    ErrsLike (Output.rounds toTop (rounds.map block)).result (forM rounds f) := by
  rw [Output.rounds]
  split
  · rw [result_ofResult]
    refine ErrsLike.map _ ?_
    induction rounds with
    | nil => exact .ok []
    | cons round rest ih =>
      rw [List.map_cons, List.mapM_cons, List.forM_cons]
      exact (h round).bind fun nodes => ih.andThen fun others => .ok (nodes :: others)
  · induction rounds with
    | nil => exact .ok []
    | cons round rest ih =>
      rw [List.map_cons, concat, List.forM_cons]
      exact errsLike_append (h round) ih

end Output

/-! ## Entries -/

namespace Entry

variable {N : Type} [Host N]

/-- Entries whose renderings fail where evaluating them does, on their own and in slots. -/
structure Evaluated (entries : List (Entry N)) : Prop where
  outputs (scope : Scope) : ErrsLike (outputs scope entries).result (evaluateEach scope entries)
  fillSlots (scope : Scope) (filling : Filling N) :
    ErrsLike (fillSlots scope entries filling).outcome (evaluateEach scope entries)

variable (scope : Scope)

theorem errsLike_outputOption {body? : Option (List (Entry N))}
    (h : ∀ body ∈ body?.toList, Evaluated body) :
    ErrsLike (outputOption scope body?).result (evaluateOption scope body?) := by
  rcases body? with _ | body
  · rw [evaluateOption]
    exact .ok []
  · rw [evaluateOption, outputOption_some]
    exact (h body (List.mem_singleton.2 rfl)).outputs scope

/-- Branches fail where evaluating them one after another does, if their bodies do. -/
theorem errsLike_choose {G : Type} {holds : G → Except PathError Bool} {fallback : Output N}
    {evaluation : List (Branch G (Entry N)) → Except PathError Unit}
    (hfallback : ErrsLike fallback.result (evaluation []))
    (hbranch : ∀ guard body rest, evaluation (⟨guard, body⟩ :: rest) =
      (holds guard).bind fun chosen => if chosen then evaluateEach scope body else evaluation rest)
    {branches : List (Branch G (Entry N))} (h : ∀ body ∈ branches.map Branch.body, Evaluated body) :
    ErrsLike (Output.choose holds (outputs scope) fallback branches).result (evaluation branches) := by
  induction branches with
  | nil => exact hfallback
  | cons branch rest ih =>
    obtain ⟨hbody, hrest⟩ := List.forall_mem_cons.1 h
    rw [hbranch, Output.choose]
    refine Output.errsLike_given fun chosen => ?_
    rcases chosen with _ | _
    · exact ih hrest
    · exact hbody.outputs scope

theorem errsLike_elseIfs {fallback : Output N} {v : Except PathError Unit}
    (hfallback : ErrsLike fallback.result v) {elseIfs : List (Branch Condition (Entry N))}
    (h : ∀ body ∈ elseIfs.map Branch.body, Evaluated body) :
    ErrsLike (Output.choose (·.evaluate scope) (outputs scope) fallback elseIfs).result
      (evaluateElseIfs scope v elseIfs) := by
  refine errsLike_choose scope ?_ (fun condition body rest => ?_) h
  · rw [evaluateElseIfs]
    exact hfallback
  · rw [evaluateElseIfs]

theorem errsLike_cases {fallback : Output N} {v : Except PathError Unit}
    (hfallback : ErrsLike fallback.result v) (subject : Path) {cases : List (Branch Operand (Entry N))}
    (h : ∀ body ∈ cases.map Branch.body, Evaluated body) :
    ErrsLike (Output.choose (scope.equals subject) (outputs scope) fallback cases).result
      (evaluateCases scope subject v cases) := by
  refine errsLike_choose scope ?_ (fun operand body rest => ?_) h
  · rw [evaluateCases]
    exact hfallback
  · rw [evaluateCases]

/-- A directive fails where evaluating it does, if its bodies do. -/
theorem errsLike_flow {f : Flow (Entry N)} (h : ∀ body ∈ f.bodies, Evaluated body) :
    ErrsLike ((flow f).output scope).result (evaluateFlow scope f) := by
  cases f with
  | conditional condition body elseIfs otherwise? =>
    obtain ⟨hbody, hrest⟩ := List.forall_mem_cons.1 h
    obtain ⟨helseIfs, hotherwise⟩ := List.forall_mem_append.1 hrest
    rw [output_conditional, evaluateFlow, Output.choose]
    refine Output.errsLike_given fun holds => ?_
    rcases holds with _ | _
    · exact errsLike_elseIfs scope (errsLike_outputOption scope hotherwise) helseIfs
    · exact hbody.outputs scope
  | loop run body otherwise? =>
    obtain ⟨hbody, hotherwise⟩ := List.forall_mem_cons.1 h
    rw [output_loop, evaluateFlow]
    refine Output.errsLike_given fun rounds => ?_
    rcases rounds.isEmpty with _ | _
    · exact Output.errsLike_rounds run.toTop (fun round => hbody.outputs round) rounds
    · exact errsLike_outputOption scope hotherwise
  | binding bindings body =>
    rw [output_binding, evaluateFlow]
    exact Output.errsLike_given fun values => (h body (.head _)).outputs (scope.derive values)
  | switch subject cases otherwise? =>
    obtain ⟨hcases, hotherwise⟩ := List.forall_mem_append.1 h
    rw [output_switch, evaluateFlow]
    exact errsLike_cases scope (errsLike_outputOption scope hotherwise) subject hcases

/-- An element fails where evaluating its attributes and its entries does, if it does not fail for want of
alignment. -/
theorem errsLike_fillElement {attributes : List (String × Interpolation)} {children : List (Entry N)}
    (h : Evaluated children) (skeleton copy : N) :
    ErrsLike (fillElement scope attributes children copy).outcome
      (evaluate scope (element skeleton attributes children)) := by
  have hfinish : ∀ filling : Filling N, ErrsLike filling.finish.outcome (.ok ()) := by
    intro filling
    rw [Filling.finish]
    split
    · exact .ok _
    · exact .misaligned _ _ _
  rw [fillElement, Traced.outcome_bind, Filling.outcome_attributes, evaluate]
  rcases Filling.values scope attributes with p | values
  · exact .path p
  · change ErrsLike (Traced.outcome (_ >>= _)) _
    rw [Traced.outcome_bind]
    exact (h.fillSlots scope _).andThen hfinish

/-- An entry fails where evaluating it does, if its parts do. -/
theorem errsLike_output_of_parts {e : Entry N} (h : ∀ body ∈ e.parts, Evaluated body) :
    ErrsLike (e.output scope).result (evaluate scope e) := by
  cases e with
  | static node =>
    rw [evaluate]
    exact .ok _
  | leaf text =>
    rw [output_leaf, evaluate]
    exact Output.errsLike_given fun content => .ok _
  | element skeleton attributes children =>
    rw [output_element, Output.result_ofResult]
    exact (errsLike_fillElement scope (h children (.head _)) skeleton _).map _
  | flow f =>
    rw [evaluate]
    exact errsLike_flow scope h

/-- **Entries fail where evaluating them does**, on their own and in slots. -/
theorem evaluated : ∀ entries : List (Entry N), Evaluated entries := by
  refine Entry.induction ⟨fun scope => ?_, fun scope filling => ?_⟩ fun e rest hparts hrest => ?_
  · rw [evaluateEach]
    exact .ok []
  · rw [evaluateEach, fillSlots]
    exact .ok filling
  refine ⟨fun scope => ?_, fun scope filling => ?_⟩
  · rw [outputs_cons, evaluateEach]
    exact Output.errsLike_append (errsLike_output_of_parts scope hparts) (hrest.outputs scope)
  have hnext := hrest.fillSlots scope
  rw [evaluateEach]
  cases e with
  | static node =>
    rw [fillSlots, evaluate]
    split
    · exact hnext _
    · exact .misaligned _ _ _
  | leaf text =>
    rw [fillSlots, evaluate]
    split
    · rw [Traced.outcome_bind, Traced.outcome_ofPath]
      rcases text.render scope with p | content
      · exact .path p
      · exact hnext _
    · exact .misaligned _ _ _
  | element skeleton attributes children =>
    rcases hslot : filling.hasSlot with _ | _
    · rw [fillSlots, hslot]
      exact .misaligned _ _ _
    rcases hfocus : Host.focusChild? filling.target filling.position with _ | ⟨slot, put⟩
    · rw [fillSlots, hslot, if_pos rfl, hfocus]
      exact .misaligned _ _ _
    · rw [fillSlots_element scope skeleton attributes children rest hslot hfocus, Traced.outcome_bind]
      exact (errsLike_fillElement scope (hparts children (.head _)) skeleton slot).bind fun node => hnext _
  | flow f =>
    rw [fillSlots, Traced.outcome_bind, Filling.insertAll, Rendering.outcome_foldUntilError, ← output_flow,
      evaluate]
    exact ((errsLike_flow scope hparts).map _).bind hnext

/-- **Whatever the host, only the data account for an error about a path**: a rendering that ends with one ends
with the first that evaluating comes upon. -/
theorem errsLike_output (e : Entry N) : ErrsLike (e.output scope).result (evaluate scope e) :=
  errsLike_output_of_parts scope fun body _ => evaluated body

end Entry

end Stencil
