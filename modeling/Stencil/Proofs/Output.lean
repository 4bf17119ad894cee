import Stencil.Render.Traced

/-!
# Proofs/Output — what a rendering comes to

    Rendering ──output──▸ nodes, and the error that ended them ──items──▸ what is handed out

An output forgets the decisions of a rendering and all that lies behind its first error.  Outputs are
put together by `++`, which cuts off at the first error, and whatever takes a rendering up to its
first error depends on its output alone (`items_untilError`, `outcome_collect`,
`outcome_foldUntilError`).
-/

namespace Stencil

/-- Nodes in order, and the error that ended them if one did. -/
@[ext] structure Output (N : Type) where
  nodes : List N
  error? : Option RenderError

namespace Output

variable {N α : Type}

/-! ## Outputs put together -/

/-- No node and no error. -/
def nil : Output N := ⟨[], none⟩

/-- One node. -/
def single (node : N) : Output N := ⟨[node], none⟩

/-- An error at once. -/
def fail (e : RenderError) : Output N := ⟨[], some e⟩

/-- An output and, unless it ends with an error, another behind it. -/
def append (a b : Output N) : Output N :=
  match a.error? with
  | some e => ⟨a.nodes, some e⟩
  | none => ⟨a.nodes ++ b.nodes, b.error?⟩

instance : Append (Output N) := ⟨append⟩

@[simp] theorem nil_append (a : Output N) : nil ++ a = a := rfl

/-- Nothing comes behind an output, whether it is whole or broken. -/
@[simp] theorem append_nil (a : Output N) : a ++ nil = a := by
  obtain ⟨nodes, _ | e⟩ := a
  · exact Output.ext (List.append_nil nodes) rfl
  · rfl

theorem append_assoc (a b c : Output N) : a ++ b ++ c = a ++ (b ++ c) := by
  obtain ⟨nodes, _ | e⟩ := a
  · obtain ⟨nodes', _ | e'⟩ := b
    · exact Output.ext (List.append_assoc nodes nodes' c.nodes) rfl
    · rfl
  · rfl

/-- Outputs one after another, up to the first error. -/
def concat : List (Output N) → Output N
  | [] => nil
  | a :: rest => a ++ concat rest

/-- The output of a reading that may fail. -/
def given (reading : Except PathError α) (next : α → Output N) : Output N :=
  match reading with
  | .ok a => next a
  | .error e => fail (.path e)

@[simp] theorem given_ok (a : α) (next : α → Output N) : given (.ok a) next = next a := rfl

/-! ## Outputs as a whole -/

/-- The items that are handed out: the nodes, and then the error. -/
def items (a : Output N) : List (Except RenderError N) :=
  a.nodes.map .ok ++ a.error?.toList.map .error

/-- All nodes, or the error. -/
def result (a : Output N) : Except RenderError (List N) :=
  match a.error? with
  | some e => .error e
  | none => .ok a.nodes

/-- Nodes or an error as an output. -/
def ofResult : Except RenderError (List N) → Output N
  | .ok nodes => ⟨nodes, none⟩
  | .error e => fail e

/-- All nodes made into one, or the error alone. -/
def wrap (f : List N → N) (a : Output N) : Output N :=
  match a.error? with
  | some e => fail e
  | none => single (f a.nodes)

/-- The blocks of a loop's rounds: in order up to the first error, or else the last one first and the
first error alone. -/
def rounds (toTop : Bool) (blocks : List (Output N)) : Output N :=
  if toTop then ofResult ((blocks.mapM result).map fun nodes => nodes.reverse.flatten)
  else concat blocks

@[simp] theorem result_nil : (nil : Output N).result = .ok [] := rfl

@[simp] theorem result_single (node : N) : (single node).result = .ok [node] := rfl

/-- **The result of two outputs**: the nodes of both, or the first error. -/
theorem result_append (a b : Output N) :
    (a ++ b).result = a.result.bind fun nodes => b.result.map (nodes ++ ·) := by
  obtain ⟨nodes, _ | e⟩ := a
  · obtain ⟨nodes', _ | e'⟩ := b <;> rfl
  · rfl

end Output

/-! ## The output of a rendering -/

namespace Traced

variable {α β : Type}

/-- Decisions do not change what a step comes to. -/
@[simp] theorem outcome_bind (t : Traced α) (f : α → Traced β) :
    (t >>= f).outcome = t.outcome.bind fun a => (f a).outcome := by
  obtain ⟨decisions, _ | a⟩ := t <;> rfl

@[simp] theorem outcome_map (f : α → β) (t : Traced α) : (t.map f).outcome = t.outcome.map f := rfl

@[simp] theorem outcome_ofPath (r : Except PathError α) :
    (ofPath r).outcome = r.mapError .path := by cases r <;> rfl

instance : LawfulMonad Traced :=
  .mk' Traced
    (by rintro α ⟨decisions, _ | a⟩
        · rfl
        · exact congrArg (fun ds => (⟨ds, .ok a⟩ : Traced α)) (List.append_nil decisions))
    (by intro α β a f; rfl)
    (by rintro α β γ ⟨decisions, _ | a⟩ f g
        · rfl
        · rcases h : f a with ⟨decisions', _ | b⟩
          · simp only [Bind.bind, Traced.bind, h]
          · simp only [Bind.bind, Traced.bind, h, List.append_assoc])

/-- Steps one after another come to what they come to without their decisions. -/
theorem outcome_mapM (f : α → Traced β) (as : List α) :
    (as.mapM f).outcome = as.mapM fun a => (f a).outcome := by
  induction as with
  | nil => rfl
  | cons a rest ih =>
    rw [List.mapM_cons, List.mapM_cons, outcome_bind]
    refine congrArg (Except.bind (f a).outcome) (funext fun b => ?_)
    rw [outcome_bind, ih]
    rfl

end Traced

namespace Rendering

variable {N α : Type}

/-- **What a rendering comes to**: its nodes up to the first error. -/
def output : Rendering N → Output N
  | done => .nil
  | decision _ rest => (rest ()).output
  | item (.ok node) rest => .single node ++ (rest ()).output
  | item (.error e) _ => .fail e

/-- **A rendering behind another** has the outputs one behind the other. -/
@[simp] theorem output_append (r : Rendering N) (next : Unit → Rendering N) :
    (append r next).output = r.output ++ (next ()).output := by
  induction r with
  | done => rfl
  | decision d rest ih => exact ih ()
  | item outcome rest ih =>
    cases outcome with
    | ok node => exact (congrArg (Output.single node ++ ·) (ih ())).trans (Output.append_assoc ..).symm
    | error e => rfl

/-- Renderings one after another have their outputs one after another. -/
@[simp] theorem output_concat (render : α → Rendering N) (members : List α) :
    (concat render members).output = .concat (members.map fun a => (render a).output) := by
  induction members with
  | nil => rfl
  | cons a rest ih => rw [concat, output_append, ih]; rfl

/-- What comes behind an error is no part of the output. -/
@[simp] theorem output_untilError (r : Rendering N) : r.untilError.output = r.output := by
  induction r with
  | done => rfl
  | decision d rest ih => exact ih ()
  | item outcome rest ih =>
    cases outcome with
    | ok node => exact congrArg (Output.single node ++ ·) (ih ())
    | error e => rfl

/-- Decisions are no part of the output. -/
@[simp] theorem output_announce (decisions : List Decision) (r : Rendering N) :
    (announce decisions r).output = r.output := by
  induction decisions with
  | nil => rfl
  | cons d rest ih => exact ih

/-- Nodes that are ready are the output. -/
@[simp] theorem output_ofNodes (nodes : List N) : (ofNodes nodes).output = ⟨nodes, none⟩ := by
  induction nodes with
  | nil => rfl
  | cons node rest ih => exact congrArg (Output.single node ++ ·) ih

/-- Before the next item there are decisions only. -/
theorem items_beforeItem (r : Rendering N) : Step.items r.beforeItem.steps = [] := by
  induction r with
  | done => rfl
  | decision d rest ih => exact ih ()
  | item outcome rest ih => rfl

/-- **What is handed out up to the first error is the output.** -/
theorem items_untilError (r : Rendering N) : Step.items r.untilError.steps = r.output.items := by
  induction r with
  | done => rfl
  | decision d rest ih => exact ih ()
  | item outcome rest ih =>
    cases outcome with
    | ok node => exact congrArg (Except.ok node :: ·) (ih ())
    | error e => exact congrArg (Except.error e :: ·) (items_beforeItem (rest ()))

/-- Collecting gives all nodes of the output or its error. -/
@[simp] theorem outcome_collect (r : Rendering N) : r.collect.outcome = r.output.result := by
  induction r with
  | done => rfl
  | decision d rest ih => exact ih ()
  | item outcome rest ih =>
    cases outcome with
    | ok node =>
      rw [collect, Traced.outcome_map, ih (), output, Output.result_append]
      rfl
    | error e => rfl

/-- Taking every item in up to an error is a fold over the nodes of the output. -/
@[simp] theorem outcome_foldUntilError (take : α → N → α) (a : α) (r : Rendering N) :
    (foldUntilError take a r).outcome = r.output.result.map (·.foldl take a) := by
  induction r generalizing a with
  | done => rfl
  | decision d rest ih => exact ih () a
  | item outcome rest ih =>
    cases outcome with
    | ok node =>
      rw [foldUntilError, ih () (take a node), output, Output.result_append]
      rcases (rest ()).output.result with e | nodes <;> rfl
    | error e => rfl

/-- The output of a traced node. -/
theorem output_ofTraced (t : Traced N) :
    (ofTraced t).output = .ofResult (t.outcome.map ([·])) := by
  rw [ofTraced, output_announce]
  rcases t.outcome with e | node <;> rfl

/-- The output of traced nodes. -/
@[simp] theorem output_ofTracedList (t : Traced (List N)) :
    (ofTracedList t).output = .ofResult t.outcome := by
  rw [ofTracedList, output_announce]
  rcases t.outcome with e | nodes
  · rfl
  · exact output_ofNodes nodes

end Rendering

end Stencil
