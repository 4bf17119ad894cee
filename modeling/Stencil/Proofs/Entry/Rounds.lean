import Stencil.Node.Basic
import Stencil.Proofs.Entry.Settled
import Stencil.Proofs.Except
import Stencil.Proofs.Scope

/-!
# Proofs/Entry/Rounds — loops round by round

    rows ──zipIdx──▸ the scopes of the rounds ──outputs──▸ blocks ──rounds──▸ what the loop comes to

A loop comes to the blocks of its rounds, each rendered in its own scope.  One behind another, up to the
first error, they are the items of a plain loop; a loop to the top has the same blocks in reverse, or that
error alone (`Entry.items_renderFlow_toTop`).

A loop over a sequence that binds nothing but its value can be written out: a binding of the place of each
item, one after another (`Entry.items_renderFlow_unrolled`).
-/

namespace Stencil

/-- Items among which there is no error. -/
def Faultless {N : Type} (items : List (Except RenderError N)) : Prop := ∀ e, Except.error e ∉ items

/-! ## Blocks -/

namespace Output

variable {N : Type}

theorem faultless_items (a : Output N) : Faultless a.items ↔ a.error? = none := by
  obtain ⟨nodes, _ | e⟩ := a
  · refine ⟨fun _ => rfl, fun _ e he => ?_⟩
    simp [items] at he
  · refine ⟨fun h => absurd ?_ (h e), fun h => absurd h (by simp)⟩
    exact List.mem_append.2 (.inr (.head _))

theorem items_of_complete {a : Output N} (h : a.error? = none) : a.items = a.nodes.map .ok := by
  rw [items, h]
  exact List.append_nil _

/-- The items of blocks without an error stand one behind another. -/
theorem items_flatten {blocks : List (Output N)} (h : ∀ block ∈ blocks, block.error? = none) :
    (blocks.map nodes).flatten.map .ok = (blocks.map items).flatten := by
  have hitems : blocks.map items = (blocks.map nodes).map (List.map .ok) := by
    rw [List.map_map]
    exact List.map_congr_left fun block hblock => items_of_complete (h block hblock)
  rw [hitems, List.map_flatten]

/-- **Rounds without an error** give all their blocks, in order or in reverse. -/
theorem items_rounds_of_complete {blocks : List (Output N)} (h : ∀ block ∈ blocks, block.error? = none) :
    (rounds false blocks).items = (blocks.map items).flatten ∧
      (rounds true blocks).items = (blocks.map items).reverse.flatten := by
  have hboth : concat blocks = ⟨(blocks.map nodes).flatten, none⟩ ∧
      blocks.mapM result = .ok (blocks.map nodes) := by
    induction blocks with
    | nil => exact ⟨rfl, rfl⟩
    | cons block rest ih =>
      obtain ⟨nodes, error?⟩ := block
      obtain rfl : error? = none := h _ (.head _)
      obtain ⟨hconcat, hresult⟩ := ih fun c hc => h c (.tail _ hc)
      rw [concat, hconcat, List.mapM_cons, hresult]
      exact ⟨rfl, rfl⟩
  constructor
  · rw [rounds, if_neg Bool.false_ne_true, hboth.1, items_of_complete rfl]
    exact items_flatten h
  · have hreverse : ∀ block ∈ blocks.reverse, block.error? = none := fun block hblock =>
      h block (List.mem_reverse.1 hblock)
    rw [rounds, if_pos rfl, hboth.2, ← List.map_reverse, ← items_flatten hreverse, List.map_reverse]
    exact items_of_complete rfl

/-- **Rounds with an error** give the blocks up to it, or the error alone. -/
theorem items_rounds_of_broken {front back : List (Output N)} {before : List N} {e : RenderError}
    (h : ∀ block ∈ front, block.error? = none) :
    (rounds false (front ++ ⟨before, some e⟩ :: back)).items =
        (front.map items).flatten ++ before.map .ok ++ [.error e] ∧
      (rounds true (front ++ ⟨before, some e⟩ :: back)).items = [.error e] := by
  have hboth : concat (front ++ ⟨before, some e⟩ :: back) =
        ⟨(front.map nodes).flatten ++ before, some e⟩ ∧
      (front ++ ⟨before, some e⟩ :: back).mapM result = .error e := by
    induction front with
    | nil => exact ⟨rfl, rfl⟩
    | cons block rest ih =>
      obtain ⟨own, error?⟩ := block
      obtain rfl : error? = none := h _ (.head _)
      obtain ⟨hconcat, hresult⟩ := ih fun c hc => h c (.tail _ hc)
      rw [List.cons_append, concat, hconcat, List.mapM_cons, hresult]
      refine ⟨Output.ext ?_ rfl, rfl⟩
      exact (List.append_assoc ..).symm
  constructor
  · rw [rounds, if_neg Bool.false_ne_true, hboth.1, items, List.map_append, items_flatten h]
    rfl
  · rw [rounds, if_pos rfl, hboth.2]
    rfl

/-- Of blocks with an error somewhere one is the first. -/
theorem exists_first_broken {blocks : List (Output N)} (h : ∃ block ∈ blocks, block.error? ≠ none) :
    ∃ front nodes e back, blocks = front ++ ⟨nodes, some e⟩ :: back ∧
      ∀ block ∈ front, block.error? = none := by
  obtain ⟨block, hblock, herror⟩ := h
  have hsome : (blocks.find? fun b => b.error?.isSome).isSome = true :=
    List.find?_isSome.2 ⟨block, hblock, Option.isSome_iff_ne_none.2 herror⟩
  obtain ⟨broken, hbroken⟩ := Option.isSome_iff_exists.1 hsome
  obtain ⟨hfirst, front, back, rfl, hfront⟩ := List.find?_eq_some_iff_append.1 hbroken
  obtain ⟨nodes, _ | e⟩ := broken
  · exact absurd hfirst Bool.false_ne_true
  · exact ⟨front, nodes, e, back, rfl, fun b hb => by simpa using hfront b hb⟩

/-- **Rounds in both orders**, told from the items of their blocks alone. -/
theorem items_rounds (outcomes : List (Output N)) :
    let blocks := outcomes.map items
    ((∀ block ∈ blocks, Faultless block) →
      (rounds false outcomes).items = blocks.flatten ∧
        (rounds true outcomes).items = blocks.reverse.flatten) ∧
    ((∃ block ∈ blocks, ¬ Faultless block) →
      ∃ front before e back, blocks = front ++ (before ++ [.error e]) :: back ∧
        (∀ block ∈ front, Faultless block) ∧ Faultless before ∧
        (rounds false outcomes).items = front.flatten ++ before ++ [.error e] ∧
        (rounds true outcomes).items = [.error e]) := by
  refine ⟨fun hall => ?_, fun hbroken => ?_⟩
  · exact items_rounds_of_complete fun block hblock =>
      (faultless_items block).1 (hall _ (List.mem_map_of_mem hblock))
  · obtain ⟨_, hblock, hfaulty⟩ := hbroken
    obtain ⟨broken, hmem, rfl⟩ := List.mem_map.1 hblock
    obtain ⟨front, nodes, e, back, rfl, hfront⟩ :=
      exists_first_broken ⟨broken, hmem, fun h => hfaulty ((faultless_items broken).2 h)⟩
    refine ⟨front.map items, nodes.map .ok, e, back.map items, List.map_append, ?_, ?_,
      items_rounds_of_broken hfront⟩
    · rintro _ hmem
      obtain ⟨block, hblock, rfl⟩ := List.mem_map.1 hmem
      exact (faultless_items block).2 (hfront block hblock)
    · intro e he
      obtain ⟨node, -, hnode⟩ := List.mem_map.1 he
      exact absurd hnode (by simp)

end Output

/-! ## The rounds of a loop -/

/-- The scopes of rounds are what each row with its number is bound to. -/
theorem Loop.scopesFrom_eq_map (run : Loop) (scope : Scope) (rows : List (Option String × Value)) :
    ∀ round : Nat, run.scopesFrom scope round rows =
      (rows.zipIdx round).map fun row => scope.derive (run.bindings row.2 row.1.1 row.1.2) := by
  induction rows with
  | nil => exact fun _ => rfl
  | cons row rest ih => exact fun round => congrArg (List.cons _) (ih (round + 1))

/-- Values without keys, not counted, are all that their rounds bind. -/
theorem Loop.scopesFrom_of_value {run : Loop} (hcounter : run.counter? = none) (scope : Scope)
    (items : List Value) (round : Nat) :
    run.scopesFrom scope round (items.map (none, ·)) =
      items.map fun value => scope.derive [(run.valueName, value)] := by
  induction items generalizing round with
  | nil => rfl
  | cons value rest ih =>
    have hbindings : run.bindings round none value = [(run.valueName, value)] := by
      unfold Loop.bindings
      rw [hcounter]
      cases run.keyName? <;> rfl
    rw [List.map_cons, Loop.scopesFrom, ih, hbindings, List.map_cons]

namespace Entry

variable {N : Type} [Host N] (scope : Scope)

/-- What the rounds of a loop hand out, each in its own scope. -/
def roundItems (run : Loop) (body : List (Entry N)) (rows : List (Option String × Value)) :
    List (List (Except RenderError N)) :=
  rows.zipIdx.map fun row =>
    Step.items (renderAll (scope.derive (run.bindings row.2 row.1.1 row.1.2)) body).steps

theorem roundItems_eq_map (run : Loop) (body : List (Entry N)) (rows : List (Option String × Value)) :
    roundItems scope run body rows =
      ((run.scopesFrom scope 0 rows).map fun round => outputs round body).map Output.items := by
  rw [Loop.scopesFrom_eq_map, List.map_map, List.map_map]
  exact List.map_congr_left fun row _ => items_renderAll _ body

/-- What is handed out for a loop: its error, its other body, or its rounds put together. -/
theorem items_renderFlow_loop (run : Loop) (body : List (Entry N)) (otherwise? : Option (List (Entry N))) :
    let handedOut := Step.items (renderFlow scope (.loop run body otherwise?)).steps
    (∀ e, run.items scope = .error e → handedOut = [.error (.path e)]) ∧
      (run.items scope = .ok [] → handedOut = Step.items (renderOption scope otherwise?).steps) ∧
      ∀ rows, run.items scope = .ok rows → rows ≠ [] →
        handedOut = (Output.rounds run.toTop
          ((run.scopesFrom scope 0 rows).map fun round => outputs round body)).items := by
  intro handedOut
  have hsettled : handedOut = _ := items_renderFlow scope (.loop run body otherwise?)
  rw [output_loop_items] at hsettled
  refine ⟨fun e he => ?_, fun hnone => ?_, fun rows hrows hsome => ?_⟩
  · rw [hsettled, he]
    rfl
  · rw [hsettled, hnone]
    exact (settled_renderOption scope otherwise?).symm
  · rw [hsettled, hrows, Output.given_ok, if_neg (by simpa using hsome)]

/-- **A loop to the top and a plain loop agree** where there are no rounds, and else put the same blocks
together: the plain one in order up to the first error, the other in reverse or that error alone. -/
theorem items_renderFlow_toTop (run : Loop) (body : List (Entry N)) (otherwise? : Option (List (Entry N))) :
    let plain := Step.items (renderFlow scope (.loop { run with toTop := false } body otherwise?)).steps
    let top := Step.items (renderFlow scope (.loop { run with toTop := true } body otherwise?)).steps
    (∀ e, run.items scope = .error e → plain = [.error (.path e)] ∧ top = [.error (.path e)]) ∧
      (run.items scope = .ok [] →
        plain = Step.items (renderOption scope otherwise?).steps ∧
          top = Step.items (renderOption scope otherwise?).steps) ∧
      ∀ rows, run.items scope = .ok rows → rows ≠ [] →
        let blocks := roundItems scope run body rows
        ((∀ block ∈ blocks, Faultless block) →
          plain = blocks.flatten ∧ top = blocks.reverse.flatten) ∧
        ((∃ block ∈ blocks, ¬ Faultless block) →
          ∃ front before e back, blocks = front ++ (before ++ [.error e]) :: back ∧
            (∀ block ∈ front, Faultless block) ∧ Faultless before ∧
            plain = front.flatten ++ before ++ [.error e] ∧ top = [.error e]) := by
  obtain ⟨hplainError, hplainNone, hplainRounds⟩ :=
    items_renderFlow_loop scope { run with toTop := false } body otherwise?
  obtain ⟨htopError, htopNone, htopRounds⟩ :=
    items_renderFlow_loop scope { run with toTop := true } body otherwise?
  refine ⟨fun e he => ⟨hplainError e he, htopError e he⟩,
    fun hnone => ⟨hplainNone hnone, htopNone hnone⟩, fun rows hrows hsome => ?_⟩
  have hscopes : ∀ toTop, ({ run with toTop := toTop } : Loop).scopesFrom scope 0 rows =
      run.scopesFrom scope 0 rows := fun _ => by
    rw [Loop.scopesFrom_eq_map, Loop.scopesFrom_eq_map]
    rfl
  -- the blocks of both loops are the same, only how they are put together is not
  rw [hplainRounds rows hrows hsome, htopRounds rows hrows hsome, hscopes false, hscopes true,
    roundItems_eq_map]
  exact Output.items_rounds ((run.scopesFrom scope 0 rows).map fun round => outputs round body)

/-- Three users, the second one without an age.  What the second round hands out before its error is in
front of it in the plain loop, and lost in the one to the top. -/
theorem items_renderFlow_toTop_age :
    let run : Loop := ⟨⟨"users"⟩, "user", some "key", some ⟨"i", .ofInt 1, .ofInt 1⟩, false⟩
    let body : List (Entry Node) :=
      [.leaf ⟨[("", ⟨"i"⟩), (".", ⟨"key"⟩)], ""⟩, .leaf ⟨[("", ⟨"user.age"⟩)], ""⟩]
    let user (age : String) : Value := .mapping [("age", .string age)]
    let scope : Scope :=
      .ofRoot (.mapping [("users", .mapping [("a", user "3"), ("b", .null), ("c", user "4")])])
    let rows : List (Option String × Value) :=
      [(some "a", user "3"), (some "b", .null), (some "c", user "4")]
    let e : RenderError := .path (.undefined ⟨"user.age"⟩ ["i", "key", "user", "users"])
    let blocks : List (List (Except RenderError Node)) :=
      [[.ok (.text "1.a"), .ok (.text "3")], [.ok (.text "2.b"), .error e], [.ok (.text "3.c"), .ok (.text "4")]]
    run.items scope = .ok rows ∧ rows ≠ [] ∧ roundItems scope run body rows = blocks ∧
      (∃ block ∈ blocks, ¬ Faultless block) ∧
      Step.items (renderFlow scope (.loop run body none)).steps =
        [.ok (.text "1.a"), .ok (.text "3"), .ok (.text "2.b"), .error e] ∧
      ∃ front before e back, blocks = front ++ (before ++ [.error e]) :: back ∧
        (∀ block ∈ front, Faultless block) ∧ Faultless before ∧
        Step.items (renderFlow scope (.loop { run with toTop := false } body none)).steps =
          front.flatten ++ before ++ [.error e] ∧
        Step.items (renderFlow scope (.loop { run with toTop := true } body none)).steps = [.error e] := by
  intro run body user scope rows e blocks
  have hrows : run.items scope = .ok rows := by
    simp only [run, scope, rows, user]
    rfl
  have hblocks : roundItems scope run body rows = blocks := by
    simp only [scope, run, body, rows, blocks, user, e]
    decide +kernel
  have hbroken : ∃ block ∈ blocks, ¬ Faultless block :=
    ⟨_, .tail _ (.head _), fun h => h e (.tail _ (.head _))⟩
  refine ⟨hrows, List.cons_ne_nil _ _, hblocks, hbroken, by decide +kernel, ?_⟩
  obtain ⟨-, -, hrounds⟩ := items_renderFlow_toTop scope run body none
  obtain ⟨-, hto⟩ := hrounds rows hrows (List.cons_ne_nil _ _)
  rw [hblocks] at hto
  exact hto hbroken

/-! ## The rounds of a loop as bindings -/

/-- The rounds of a loop written out: the body once for the place of each item, bound to the loop's name. -/
def unrolled (run : Loop) (body : List (Entry N)) (count : Nat) : List (Entry N) :=
  (List.range count).map fun i => .flow (.binding [(run.valueName, run.iterable.item i)] body)

/-- Bound to the place of an item, a body comes to what it does with the item itself. -/
theorem output_binding_item {p : Path} {items : List Value} (hp : scope.find? p = some (.sequence items))
    (name : String) (body : List (Entry N)) {i : Nat} {value : Value} (hi : items[i]? = some value) :
    (flow (.binding [(name, p.item i)] body)).output scope = outputs (scope.derive [(name, value)]) body := by
  have hvalues : scope.values [(name, p.item i)] = .ok [(name, value)] := by
    rw [Scope.values, List.mapM_cons, List.mapM_nil, Scope.lookup, Scope.find?_item hp, hi]
    rfl
  rw [output_binding, hvalues, Output.given_ok]

/-- **A loop over a sequence is its unrolling**, up to the same first error. -/
theorem items_renderFlow_unrolled {run : Loop} (hkey : run.keyName? = none) (hcounter : run.counter? = none)
    (htoTop : run.toTop = false) {items : List Value}
    (hitems : scope.find? run.iterable = some (.sequence items)) (hsome : items ≠ [])
    (body : List (Entry N)) (otherwise? : Option (List (Entry N))) :
    Step.items (renderFlow scope (.loop run body otherwise?)).steps =
      Step.items (renderAll scope (unrolled run body items.length)).steps := by
  have hrows : run.items scope = .ok (items.map (none, ·)) := by
    rw [Loop.items, hkey, Scope.items, Scope.view, Scope.lookup, hitems]
    rfl
  have hblocks : (unrolled run body items.length).map (output scope) =
      items.map fun value => outputs (scope.derive [(run.valueName, value)]) body := by
    refine List.ext_getElem (by simp [unrolled]) fun i hleft hright => ?_
    rw [List.length_map] at hright
    simp only [unrolled, List.getElem_map, List.getElem_range]
    exact output_binding_item scope hitems run.valueName body (List.getElem?_eq_getElem hright)
  obtain ⟨-, -, hrounds⟩ := items_renderFlow_loop scope run body otherwise?
  rw [hrounds _ hrows (by simpa using hsome), htoTop, Loop.scopesFrom_of_value hcounter,
    List.map_map, items_renderAll, outputs_eq_concat, hblocks]
  rfl

/-- Three items behind a path with white space in it; the loop and its unrolling end with the second one. -/
theorem items_renderFlow_unrolled_tags :
    let run : Loop := ⟨⟨" groups . 1"⟩, "tag", none, none, false⟩
    let items : List Value := [.mapping [("id", .string "x")], .null, .mapping [("id", .string "y")]]
    let scope : Scope := .ofRoot (.mapping [("groups", .sequence [.null, .sequence items])])
    let body : List (Entry Node) := [.leaf ⟨[], "-"⟩, .leaf ⟨[("", ⟨"tag.id"⟩)], ""⟩]
    run.keyName? = none ∧ run.counter? = none ∧ run.toTop = false ∧
      scope.find? run.iterable = some (.sequence items) ∧ items ≠ [] ∧
      Step.items (renderFlow scope (.loop run body none)).steps =
        Step.items (renderAll scope (unrolled run body items.length)).steps ∧
      Step.items (renderAll scope (unrolled run body items.length)).steps =
        [.ok (.text "-"), .ok (.text "x"), .ok (.text "-"),
          .error (.path (.undefined ⟨"tag.id"⟩ ["tag", "groups"]))] := by
  intro run items scope body
  have hitems : scope.find? run.iterable = some (.sequence items) := by
    simp only [scope, run, items]
    rfl
  exact ⟨rfl, rfl, rfl, hitems, List.cons_ne_nil _ _,
    items_renderFlow_unrolled scope rfl rfl rfl hitems (List.cons_ne_nil _ _) body none, by decide +kernel⟩

end Entry

end Stencil
