import Stencil.Node.Basic
import Stencil.Proofs.Entry.Settled

/-!
# Proofs/Entry/Demand — renderings are worked out on demand

    pull n (a, then b) = pull n a      if a has n items

Asking for some items takes the first steps of the whole rendering and no others
(`Rendering.pull_prefix_steps`, `Rendering.items_pull`).  What comes behind a rendering that has enough items is
not begun (`Rendering.pull_untilError_append`), whether it is the rest of a list or the later rounds of a
loop.
-/

namespace Stencil

/-! ## First steps -/

/-- First steps take the first decisions. -/
theorem Step.prefix_decisions {N : Type} {first all : List (Step N)} (h : first <+: all) :
    decisions first <+: decisions all := by
  obtain ⟨later, rfl⟩ := h
  induction first with
  | nil => exact List.nil_prefix
  | cons step rest ih =>
    cases step with
    | decision d => exact (List.prefix_cons_inj d).2 ih
    | item outcome => exact ih

/-- An output keeps its items, whatever comes behind it. -/
theorem Output.length_items_le_append {N : Type} (a b : Output N) :
    a.items.length ≤ (a ++ b).items.length := by
  obtain ⟨nodes, _ | e⟩ := a
  · change (items ⟨nodes, none⟩).length ≤ (items ⟨nodes ++ b.nodes, b.error?⟩).length
    simp only [items, List.length_append, List.length_map, Option.toList_none, List.length_nil]
    omega
  · exact Nat.le_refl _

namespace Rendering

variable {N α : Type}

@[simp] theorem pull_zero (r : Rendering N) : r.pull 0 = [] := by cases r <;> rw [pull]

/-- **Asking for items takes first steps.** -/
theorem pull_prefix_steps (r : Rendering N) (n : Nat) : r.pull n <+: r.steps := by
  induction r generalizing n with
  | done => cases n <;> exact List.nil_prefix
  | decision d rest ih =>
    obtain _ | n := n
    · exact List.nil_prefix
    · exact (List.prefix_cons_inj _).2 (ih () (n + 1))
  | item outcome rest ih =>
    obtain _ | _ | n := n
    · exact List.nil_prefix
    · exact (List.prefix_cons_inj _).2 List.nil_prefix
    · exact (List.prefix_cons_inj _).2 (ih () (n + 1))

/-- **The items asked for are the first ones.** -/
theorem items_pull (r : Rendering N) (n : Nat) :
    Step.items (r.pull n) = (Step.items r.steps).take n := by
  induction r generalizing n with
  | done => cases n <;> rfl
  | decision d rest ih =>
    obtain _ | n := n
    · rfl
    · exact ih () (n + 1)
  | item outcome rest ih =>
    obtain _ | _ | n := n
    · rfl
    · rfl
    · exact congrArg (outcome :: ·) (ih () (n + 1))

/-- Up to the first error nothing is left out. -/
theorem pull_untilError {r : Rendering N} {n : Nat} (h : n ≤ r.output.items.length) :
    r.untilError.pull n = r.pull n := by
  induction r generalizing n with
  | done => rfl
  | decision d rest ih =>
    obtain _ | n := n
    · rfl
    · exact congrArg (Step.decision d :: ·) (ih () h)
  | item outcome rest ih =>
    cases outcome with
    | ok node =>
      obtain _ | _ | n := n
      · rfl
      · rfl
      · exact congrArg (Step.item (.ok node) :: ·) (ih () (Nat.le_of_succ_le_succ h))
    | error e =>
      have hone : n ≤ 1 := h
      obtain rfl | rfl : n = 0 ∨ n = 1 := by omega
      · rfl
      · rfl

/-- **What comes behind enough items is not begun.** -/
theorem pull_append {r : Rendering N} {next : Unit → Rendering N} {n : Nat}
    (h : n ≤ (Step.items r.steps).length) : (append r next).pull n = r.pull n := by
  induction r generalizing n with
  | done =>
    obtain rfl : n = 0 := Nat.le_zero.1 h
    rw [pull_zero, pull_zero]
  | decision d rest ih =>
    obtain _ | n := n
    · rfl
    · exact congrArg (Step.decision d :: ·) (ih () h)
  | item outcome rest ih =>
    obtain _ | _ | n := n
    · rfl
    · rfl
    · exact congrArg (Step.item outcome :: ·) (ih () (Nat.le_of_succ_le_succ h))

/-- The output is handed out at least. -/
theorem length_output_le (r : Rendering N) :
    r.output.items.length ≤ (Step.items r.steps).length := by
  induction r with
  | done => exact Nat.le_refl 0
  | decision d rest ih => exact ih ()
  | item outcome rest ih =>
    cases outcome with
    | ok node => exact Nat.succ_le_succ (ih ())
    | error e => exact Nat.succ_le_succ (Nat.zero_le _)

/-- **What comes behind enough items is not begun**, though an error among them cuts it off anyway. -/
theorem pull_untilError_append {r : Rendering N} {next : Unit → Rendering N} {n : Nat}
    (h : n ≤ r.output.items.length) : (append r next).untilError.pull n = r.pull n := by
  have hboth : n ≤ (append r next).output.items.length := by
    rw [output_append]
    exact Nat.le_trans h (Output.length_items_le_append _ _)
  rw [pull_untilError hboth, pull_append (Nat.le_trans h r.length_output_le)]

theorem append_assoc (a : Rendering N) (b c : Unit → Rendering N) :
    append (append a b) c = append a fun _ => append (b ()) c := by
  induction a with
  | done => rfl
  | decision d rest ih => exact congrArg (decision d) (funext ih)
  | item outcome rest ih => exact congrArg (item outcome) (funext ih)

theorem concat_append (render : α → Rendering N) (early late : List α) :
    concat render (early ++ late) = append (concat render early) fun _ => concat render late := by
  induction early with
  | nil => rfl
  | cons a rest ih => rw [List.cons_append, concat, concat, append_assoc, ih]

end Rendering

namespace Entry

open Rendering

variable {N : Type} [Host N] {scope : Scope}

/-! ## Lists -/

theorem renderEach_append (scope : Scope) (xs ys : List (Entry N)) :
    renderEach scope (xs ++ ys) = (renderEach scope xs).append fun _ => renderEach scope ys := by
  induction xs with
  | nil => rw [List.nil_append, renderEach, append]
  | cons entry rest ih => rw [List.cons_append, renderEach, renderEach, append_assoc, ih]

/-- **Entries behind enough items are not begun.** -/
theorem pull_renderAll_append {xs : List (Entry N)} {n : Nat}
    (h : n ≤ (Step.items (renderAll scope xs).steps).length) (ys : List (Entry N)) :
    (renderAll scope (xs ++ ys)).pull n = (renderAll scope xs).pull n := by
  rw [items_renderAll] at h
  rw [renderAll, renderAll, renderEach_append, pull_untilError_append h, pull_untilError h]

/-! ## Loops -/

/-- What some rounds of a loop are rendered to, one after another. -/
def renderRounds (body : List (Entry N)) (rounds : List Scope) : Rendering N :=
  (concat (fun round => renderAll round body) rounds).untilError

/-- **Rounds behind enough items are not begun.** -/
theorem pull_renderRounds_append {body : List (Entry N)} {early : List Scope} {n : Nat}
    (h : n ≤ (Step.items (renderRounds body early).steps).length) (late : List Scope) :
    (renderRounds body (early ++ late)).pull n = (renderRounds body early).pull n := by
  rw [renderRounds, items_untilError] at h
  rw [renderRounds, renderRounds, concat_append, pull_untilError_append h, pull_untilError h]

variable {run : Loop} {body : List (Entry N)} {otherwise? : Option (List (Entry N))}

/-- A loop with rounds decides on their number, and then they are rendered as they come. -/
theorem renderFlow_loop_cons {round : Scope} {rounds : List Scope} (htop : run.toTop = false)
    (hrounds : run.scopes scope = .ok (round :: rounds)) :
    renderFlow scope (.loop run body otherwise?) =
      .decision (.rounds run.iterable (round :: rounds).length false) fun _ =>
        renderRounds body (round :: rounds) := by
  rw [renderFlow, hrounds]
  change Rendering.decision (.rounds _ _ run.toTop) (fun _ => if run.toTop then _ else _) = _
  rw [htop]
  rfl

/-- A loop gives the items of its early rounds before it begins the late ones. -/
theorem pull_renderFlow_loop {early late : List Scope} {n : Nat} (htop : run.toTop = false)
    (hrounds : run.scopes scope = .ok (early ++ late))
    (h : n ≤ (Step.items (renderRounds body early).steps).length) :
    (renderFlow scope (.loop run body otherwise?)).pull n =
      (Rendering.decision (.rounds run.iterable (early ++ late).length false) fun _ =>
        renderRounds body early).pull n := by
  obtain _ | n := n
  · rw [pull_zero, pull_zero]
  · obtain _ | ⟨round, rounds⟩ := early
    · exact absurd h (Nat.not_succ_le_zero n)
    · rw [renderFlow_loop_cons htop hrounds, pull, pull]
      exact congrArg (Step.decision _ :: ·) (pull_renderRounds_append h late)

/-- **Rendering is on demand.**  Asking a list for some items gives its first items and takes its first
decisions.  If its entries have enough items, the steps are the same whatever entries come behind them.
If the early rounds of a loop have enough, the steps are the same whatever the late rounds are, once their
number is announced, and whatever comes behind the loop. -/
theorem renderAll_on_demand (scope : Scope) (xs ys : List (Entry N)) (n : Nat) :
    Step.items ((renderAll scope xs).pull n) = (Step.items (renderAll scope xs).steps).take n ∧
      Step.decisions ((renderAll scope xs).pull n) <+: Step.decisions (renderAll scope xs).steps ∧
      (n ≤ (Step.items (renderAll scope xs).steps).length →
        (renderAll scope (xs ++ ys)).pull n = (renderAll scope xs).pull n) ∧
      ∀ (run : Loop) (body : List (Entry N)) (otherwise? : Option (List (Entry N)))
        (early late : List Scope), run.toTop = false → run.scopes scope = .ok (early ++ late) →
        n ≤ (Step.items (renderRounds body early).steps).length →
          let f : Flow (Entry N) := .loop run body otherwise?
          let begun : Rendering N :=
            .decision (.rounds run.iterable (early ++ late).length false) fun _ => renderRounds body early
          (renderFlow scope f).pull n = begun.pull n ∧
            (renderAll scope (.flow f :: ys)).pull n = begun.pull n := by
  refine ⟨items_pull _ n, Step.prefix_decisions (pull_prefix_steps _ n), fun h => pull_renderAll_append h ys, ?_⟩
  intro run body otherwise? early late htop hrounds h f begun
  have hflow : (renderFlow scope f).pull n = begun.pull n := pull_renderFlow_loop htop hrounds h
  have hcount : n ≤ (renderFlow scope f).output.items.length := by
    have hitems := congrArg (fun steps => (Step.items steps).length) hflow
    simp only [items_pull, List.length_take] at hitems
    rw [← settled_renderFlow]
    have hbegun : (Step.items begun.steps).length = (Step.items (renderRounds body early).steps).length := rfl
    omega
  refine ⟨hflow, ?_⟩
  rw [renderAll, renderEach, render, pull_untilError_append hcount, hflow]

/-- One item is asked for: neither the entry behind, whose path leads nowhere, nor the second round, whose
item is no text, is begun. -/
theorem renderAll_on_demand_one :
    let xs : List (Entry Node) := [.static (.text "a")]
    let ys : List (Entry Node) := [.leaf ⟨[("", ⟨"gone"⟩)], ""⟩]
    let run : Loop := ⟨⟨"xs"⟩, "x", none, none, false⟩
    let body : List (Entry Node) := [.leaf ⟨[("", ⟨"x"⟩)], ""⟩]
    let scope : Scope := .ofRoot (.mapping [("xs", .sequence [.string "1", .mapping []])])
    let early : List Scope := [scope.derive [("x", .string "1")]]
    let late : List Scope := [scope.derive [("x", .mapping [])]]
    (1 ≤ (Step.items (renderAll scope xs).steps).length ∧
        (renderAll scope (xs ++ ys)).pull 1 = (renderAll scope xs).pull 1) ∧
      run.scopes scope = .ok (early ++ late) ∧
      1 ≤ (Step.items (renderRounds body early).steps).length ∧
      (renderAll scope (.flow (.loop run body none) :: ys)).pull 1 =
        [.decision (.rounds ⟨"xs"⟩ 2 false), .item (.ok (.text "1"))] := by
  intro xs ys run body scope early late
  obtain ⟨-, -, hlist, hloop⟩ := renderAll_on_demand scope xs ys 1
  have hxs : 1 ≤ (Step.items (renderAll scope xs).steps).length := Nat.le_refl 1
  have hscopes : run.scopes scope = .ok (early ++ late) := by
    simp only [run, scope, early, late]
    rfl
  have hearly : 1 ≤ (Step.items (renderRounds body early).steps).length := Nat.le_refl 1
  exact ⟨⟨hxs, hlist hxs⟩, hscopes, hearly, (hloop run body none early late rfl hscopes hearly).2⟩

end Entry

end Stencil
