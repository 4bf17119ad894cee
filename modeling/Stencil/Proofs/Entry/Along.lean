import Stencil.Proofs.Entry.Redirection
import Stencil.Proofs.Filling
import Stencil.Proofs.SameUpTo

/-!
# Proofs/Entry/Along — what entries come to along a redirection

    entries, a ──────outputs──────▸ an output
       │                               ∥  but for the paths and names that errors show
    redirected entries, b ─outputs─▸ an output

Two scopes agree along a redirection if a path leads in the one where the path put for it leads in the
other (`Scope.AgreeAlong`).  Every use of a path then comes to the same, and if the scopes still agree
behind whatever the entries bind (`Scope.Lasting`), so do the entries as a whole (`Entry.alikeAlong`).
-/

namespace Stencil

/-! ## Errors along a redirection -/

/-- An error of a path, and one of the same kind of the path put for it. -/
inductive PathError.Along (σ : Path → Path) : PathError → PathError → Prop
  | undefined (path : Path) (available available' : List String) :
      Along σ (.undefined path available) (.undefined (σ path) available')
  | mismatch (path : Path) (expected : Shape) (found : Kind) :
      Along σ (.mismatch path expected found) (.mismatch (σ path) expected found)

/-- An error of a rendering, and one of the same kind along a redirection. -/
inductive RenderError.Along (σ : Path → Path) : RenderError → RenderError → Prop
  | path {e e' : PathError} (h : e.Along σ e') : Along σ (.path e) (.path e')
  | misaligned (tag? : Option String) (misfit : Misfit) :
      Along σ (.misaligned tag? misfit) (.misaligned tag? misfit)

/-! ## Scopes along a redirection -/

/-- Two scopes in which some paths, and in the other the paths put for them, lead to the same, if
anywhere. -/
def Scope.AgreeAlong (σ : Path → Path) (paths : Path → Prop) (a b : Scope) : Prop :=
  ∀ p, paths p → a.find? p = b.find? (σ p)

/-- **A relation of scopes that lasts**: they agree along a redirection of some paths, and are still related
behind equal bindings of some names. -/
structure Scope.Lasting (σ : Path → Path) (paths : Path → Prop) (names : String → Prop)
    (R : Scope → Scope → Prop) : Prop where
  agree : ∀ {a b}, R a b → AgreeAlong σ paths a b
  derive : ∀ {a b} {bindings : List (String × Value)}, R a b → (∀ binding ∈ bindings, names binding.1) →
    R (a.derive bindings) (b.derive bindings)

theorem Scope.AgreeAlong.mono {σ : Path → Path} {paths fewer : Path → Prop} {a b : Scope}
    (h : AgreeAlong σ paths a b) (hsub : ∀ p, fewer p → paths p) : AgreeAlong σ fewer a b :=
  fun p hp => h p (hsub p hp)

theorem Scope.Lasting.mono {σ : Path → Path} {paths fewer : Path → Prop} {names some : String → Prop}
    {R : Scope → Scope → Prop} (h : Lasting σ paths names R) (hpaths : ∀ p, fewer p → paths p)
    (hnames : ∀ name, some name → names name) : Lasting σ fewer some R :=
  ⟨fun hR => (h.agree hR).mono hpaths, fun hR hb => h.derive hR fun binding hmem =>
    hnames _ (hb binding hmem)⟩

/-! ## Uses of paths -/

section Uses

variable {σ : Path → Path} {a b : Scope}

theorem Scope.lookup_along {p : Path} (h : a.find? p = b.find? (σ p)) :
    (a.lookup p).SameUpTo (PathError.Along σ) (b.lookup (σ p)) := by
  rw [lookup, lookup, h]
  split
  · exact .ok _
  · exact .error (.undefined p _ _)

/-- A view is a lookup and what it makes of the value. -/
theorem Scope.view_eq_bind {α : Type} (scope : Scope) (path : Path) (expected : Shape)
    (read : Value → Option α) :
    scope.view path expected read = (scope.lookup path).bind fun value =>
      match read value with
      | some x => .ok x
      | none => .error (.mismatch path expected value.kind) := by
  rw [view]
  cases scope.lookup path <;> rfl

theorem Scope.view_along {α : Type} {p : Path} (h : a.find? p = b.find? (σ p)) (expected : Shape)
    (read : Value → Option α) :
    (a.view p expected read).SameUpTo (PathError.Along σ) (b.view (σ p) expected read) := by
  rw [view_eq_bind, view_eq_bind]
  refine (lookup_along h).bind fun value => ?_
  split
  · exact .ok _
  · exact .error (.mismatch p expected _)

variable {operand : Operand} {condition : Condition} {run : Loop}

theorem Operand.forms_along (h : Scope.AgreeAlong σ (· ∈ operand.paths) a b) :
    (operand.forms a).SameUpTo (PathError.Along σ) ((operand.redirect σ).forms b) := by
  obtain text | p := operand
  · exact .ok _
  · have hp := h p (.head _)
    refine (Scope.view_along hp _ _).bind fun text => ?_
    exact (Scope.lookup_along hp).bind fun value => .ok _

theorem Operand.double_along (h : Scope.AgreeAlong σ (· ∈ operand.paths) a b) :
    (operand.double a).SameUpTo (PathError.Along σ) ((operand.redirect σ).double b) := by
  obtain text | p := operand
  · exact .ok _
  · exact Scope.view_along (h p (.head _)) _ _

theorem Scope.equals_along {p : Path} (hp : a.find? p = b.find? (σ p))
    (h : AgreeAlong σ (· ∈ operand.paths) a b) :
    (a.equals p operand).SameUpTo (PathError.Along σ) (b.equals (σ p) (operand.redirect σ)) := by
  have hown : AgreeAlong σ (· ∈ (Operand.path p).paths) a b := by
    intro q hq
    obtain rfl := List.mem_singleton.1 hq
    exact hp
  refine (Operand.forms_along hown).bind fun own => ?_
  exact (Operand.forms_along h).bind fun other => .ok _

theorem compareAll_along {test : Path} (htest : a.find? test = b.find? (σ test)) :
    ∀ (comparisons : List (Comparison × Operand)) (sofar : Option Bool),
      Scope.AgreeAlong σ (· ∈ comparisons.flatMap fun comparison => comparison.2.paths) a b →
        (compareAll a test sofar comparisons).SameUpTo (PathError.Along σ)
          (compareAll b (σ test) sofar (comparisons.map (Prod.map id (Operand.redirect σ))))
  | [], sofar, _ => by
      rw [List.map_nil, compareAll, compareAll]
      exact .ok sofar
  | (comparison, operand) :: rest, sofar, h => by
      by_cases hstop : sofar = some false
      · rw [hstop]
        exact .ok _
      · have hoperand : Scope.AgreeAlong σ (· ∈ operand.paths) a b :=
          h.mono fun p hp => List.mem_append.2 (.inl hp)
        have hrest := h.mono fun p hp => List.mem_append.2 (.inr hp)
        rw [List.map_cons, Prod.map_apply, compareAll.eq_3 _ _ _ _ _ _ hstop,
          compareAll.eq_3 _ _ _ _ _ _ hstop]
        refine (Scope.view_along htest _ _).bind fun left => ?_
        refine (Operand.double_along hoperand).bind fun right => ?_
        exact compareAll_along htest rest _ hrest

/-- **Whether a condition holds** is the same along a redirection. -/
theorem Condition.evaluate_along (h : Scope.AgreeAlong σ (· ∈ condition.paths) a b) :
    (condition.evaluate a).SameUpTo (PathError.Along σ) ((condition.redirect σ).evaluate b) := by
  have htest := h condition.test (.head _)
  have hcomparisons := h.mono fun p hp => List.mem_cons_of_mem _ (List.mem_append.2 (.inr hp))
  have hequal : (condition.equalTest a).SameUpTo (PathError.Along σ)
      ((condition.redirect σ).equalTest b) := by
    rw [equalTest, equalTest, redirect]
    cases hoperand : condition.equal? with
    | none => exact .ok none
    | some operand =>
      refine (Scope.equals_along htest (h.mono fun p hp => ?_)).map some
      simp [paths, hoperand, hp]
  refine (Scope.lookup_along htest).bind fun value => ?_
  refine Except.SameUpTo.bind ?_ fun result => .ok _
  rw [core, core, redirect]
  split
  · exact .ok _
  · refine hequal.bind fun sofar => ?_
    exact (compareAll_along htest _ sofar hcomparisons).bind fun result => .ok _

theorem Loop.items_along (h : a.find? run.iterable = b.find? (σ run.iterable)) :
    (run.items a).SameUpTo (PathError.Along σ) ((run.redirect σ).items b) := by
  obtain ⟨iterable, valueName, _ | key, counter?, toTop⟩ := run
  · exact (Scope.view_along h _ _).map _
  · exact (Scope.view_along h _ _).map _

theorem Scope.values_along {bindings : List (String × Path)}
    (h : AgreeAlong σ (· ∈ bindings.map Prod.snd) a b) :
    (a.values bindings).SameUpTo (PathError.Along σ) (b.values (bindings.map (Prod.map id σ))) := by
  rw [values, values, List.mapM_map]
  exact .mapM fun _ hmem => (lookup_along (h _ (List.mem_map_of_mem hmem))).map _

/-- Holes are filled from left to right, up to the first that cannot be. -/
theorem Interpolation.fill_cons (scope : Scope) (tail literal : String) (path : Path)
    (rest : List (String × Path)) :
    fill scope tail ((literal, path) :: rest) =
      (scope.string path).bind fun value => (fill scope tail rest).map (literal ++ value ++ ·) := by
  rw [fill]
  cases scope.string path <;> rfl

theorem Interpolation.render_along {text : Interpolation}
    (h : Scope.AgreeAlong σ (· ∈ text.paths) a b) :
    (text.render a).SameUpTo (PathError.Along σ) ((text.redirect σ).render b) := by
  obtain ⟨holes, tail⟩ := text
  rw [render, render, redirect]
  induction holes with
  | nil => exact .ok tail
  | cons hole rest ih =>
    obtain ⟨literal, path⟩ := hole
    have hrest := ih (h.mono fun p hp => List.mem_cons_of_mem _ hp)
    rw [List.map_cons, Prod.map_apply, fill_cons, fill_cons]
    refine (Scope.view_along (h path (.head _)) _ _).bind fun value => ?_
    exact hrest.map _

theorem Filling.values_along {attributes : List (String × Interpolation)}
    (h : Scope.AgreeAlong σ (· ∈ attributes.flatMap fun entry => entry.2.paths) a b) :
    (Filling.values a attributes).SameUpTo (PathError.Along σ)
      (Filling.values b (attributes.map (Prod.map id (Interpolation.redirect σ)))) := by
  rw [values, values, List.mapM_map]
  exact .mapM fun entry hentry => (Interpolation.render_along (h.mono fun p hp =>
    List.mem_flatMap.2 ⟨entry, hentry, hp⟩)).map _

end Uses

/-! ## Names that are bound -/

/-- A round of a loop binds the loop's names. -/
theorem Loop.mem_names_of_mem_bindings {run : Loop} {round : Nat} {key? : Option String}
    {value : Value} {binding : String × Value} (h : binding ∈ run.bindings round key? value) :
    binding.1 ∈ run.names := by
  unfold bindings at h
  rw [List.mem_cons, List.mem_append] at h
  obtain rfl | h | h := h
  · exact .head _
  · split at h
    · next hname =>
      obtain rfl := List.mem_singleton.1 h
      exact .tail _ (List.mem_append.2 (.inl (Option.mem_toList.2 hname)))
    · exact absurd h List.not_mem_nil
  · split at h
    · next counter hcounter =>
      obtain rfl := List.mem_singleton.1 h
      exact .tail _ (List.mem_append.2 (.inr (List.mem_map.2 ⟨counter, Option.mem_toList.2 hcounter, rfl⟩)))
    · exact absurd h List.not_mem_nil

/-- The values of bindings come under the names of the bindings. -/
theorem Scope.names_values {scope : Scope} {bindings : List (String × Path)}
    {values : List (String × Value)} (h : scope.values bindings = .ok values) :
    values.map Prod.fst = bindings.map Prod.fst := by
  rw [Scope.values] at h
  induction bindings generalizing values with
  | nil =>
    obtain rfl := Except.ok.inj h
    rfl
  | cons binding rest ih =>
    rw [List.mapM_cons] at h
    obtain ⟨first, hfirst, h⟩ := Except.ok_of_bind h
    obtain ⟨others, hothers, h⟩ := Except.ok_of_bind h
    obtain ⟨value, -, rfl⟩ := Except.ok_of_map hfirst
    obtain rfl := Except.ok.inj h
    rw [List.map_cons, List.map_cons, ih hothers]

/-! ## Entry by entry -/

namespace Entry

variable {N : Type} [Host N] {σ : Path → Path} {a b : Scope}

/-- Entries that come to the same along a redirection, on their own and in the slots of an element. -/
structure AlikeAlong (σ : Path → Path) (a b : Scope) (entries : List (Entry N)) : Prop where
  outputs : (outputs a entries).SameUpTo (RenderError.Along σ) (outputs b (redirectAll σ entries))
  fillSlots : ∀ filling, (fillSlots a entries filling).outcome.SameUpTo (RenderError.Along σ)
    (fillSlots b (redirectAll σ entries) filling).outcome

theorem outputOption_along {body? : Option (List (Entry N))}
    (h : ∀ body ∈ body?.toList, AlikeAlong σ a b body) :
    (outputOption a body?).SameUpTo (RenderError.Along σ) (outputOption b (redirectOption σ body?)) := by
  obtain _ | body := body?
  · exact .complete []
  · rw [redirectOption, outputOption_some, outputOption_some]
    exact (h body (.head _)).outputs

theorem choose_along {G : Type} {holds holds' : G → Except PathError Bool} {f : G → G}
    {branches : List (Branch G (Entry N))} {otherwise? : Option (List (Entry N))}
    (hholds : ∀ branch ∈ branches,
      (holds branch.guard).SameUpTo (PathError.Along σ) (holds' (f branch.guard)))
    (hbodies : ∀ body ∈ branches.map Branch.body ++ otherwise?.toList, AlikeAlong σ a b body) :
    (Output.choose holds (Entry.outputs a) (outputOption a otherwise?) branches).SameUpTo
      (RenderError.Along σ)
      (Output.choose holds' (Entry.outputs b) (outputOption b (redirectOption σ otherwise?))
        (branches.map fun branch => ⟨f branch.guard, redirectAll σ branch.body⟩)) := by
  induction branches with
  | nil => exact outputOption_along hbodies
  | cons branch rest ih =>
    rw [List.map_cons, Output.choose, Output.choose]
    refine .given (fun _ _ => .path) (hholds branch (.head _)) fun found _ => ?_
    obtain _ | _ := found
    · exact ih (fun c hc => hholds c (.tail _ hc)) fun c hc => hbodies c (.tail _ hc)
    · exact (hbodies branch.body (.head _)).outputs

/-- Bodies that come to the same along a redirection behind whatever some names are bound to. -/
def AlikeBehind (σ : Path → Path) (a b : Scope) (names : List String) (body : List (Entry N)) : Prop :=
  ∀ bindings : List (String × Value), (∀ binding ∈ bindings, binding.1 ∈ names) →
    AlikeAlong σ (a.derive bindings) (b.derive bindings) body

/-- Nothing bound is no change. -/
theorem AlikeBehind.here {names : List String} {body : List (Entry N)}
    (h : AlikeBehind σ a b names body) : AlikeAlong σ a b body :=
  h [] fun _ hmem => absurd hmem List.not_mem_nil

/-- The rounds of a loop come to the same. -/
theorem rounds_along {run : Loop} {body : List (Entry N)} (h : AlikeBehind σ a b run.names body)
    (items : List (Option String × Value)) : ∀ round : Nat,
      List.Forall₂ (Output.SameUpTo (RenderError.Along σ))
        ((run.scopesFrom a round items).map fun scope => outputs scope body)
        (((run.redirect σ).scopesFrom b round items).map fun scope => outputs scope (redirectAll σ body)) := by
  induction items with
  | nil => exact fun _ => .nil
  | cons item rest ih =>
    intro round
    exact .cons (h _ fun binding => Loop.mem_names_of_mem_bindings).outputs (ih (round + 1))

/-- **What a directive comes to** is the same along a redirection of its own paths, if what its bodies come
to is, behind whatever it binds. -/
theorem output_flow_along {f : Flow (Entry N)} (hown : Scope.AgreeAlong σ (· ∈ f.ownPaths) a b)
    (hbodies : ∀ body ∈ f.bodies, AlikeBehind σ a b f.ownNames body) :
    ((flow f).output a).SameUpTo (RenderError.Along σ) ((flow (redirectFlow σ f)).output b) := by
  have hhere : ∀ body ∈ f.bodies, AlikeAlong σ a b body := fun body hbody => (hbodies body hbody).here
  cases f with
  | conditional condition body elseIfs otherwise? =>
    rw [redirectFlow, redirectElseIfs_eq_map, output_conditional, output_conditional]
    have hguards : ∀ branch ∈ Branch.mk condition body :: elseIfs,
        (branch.guard.evaluate a).SameUpTo (PathError.Along σ) ((branch.guard.redirect σ).evaluate b) := by
      refine fun branch hbranch => Condition.evaluate_along (hown.mono fun p hp => ?_)
      change p ∈ (Branch.mk condition body :: elseIfs).flatMap fun branch => branch.guard.paths
      exact List.mem_flatMap.2 ⟨branch, hbranch, hp⟩
    exact choose_along (f := Condition.redirect σ) hguards hhere
  | loop run body otherwise? =>
    rw [redirectFlow, output_loop_items, output_loop_items]
    refine .given (fun _ _ => .path) (Loop.items_along (hown _ (.head _))) fun items _ => ?_
    obtain _ | _ := items.isEmpty
    · exact .rounds _ (rounds_along (hbodies body (.head _)) items 0)
    · exact outputOption_along fun other hother => hhere other (.tail _ hother)
  | binding bindings body =>
    rw [redirectFlow, output_binding, output_binding]
    refine .given (fun _ _ => .path) (Scope.values_along hown) fun values hvalues => ?_
    refine (hbodies body (.head _) values fun binding hmem => ?_).outputs
    rw [Flow.ownNames, ← Scope.names_values hvalues]
    exact List.mem_map_of_mem hmem
  | switch subject cases otherwise? =>
    rw [redirectFlow, redirectCases_eq_map, output_switch, output_switch]
    refine choose_along (f := Operand.redirect σ)
      (fun branch hbranch => Scope.equals_along (hown _ (.head _)) ?_) hhere
    exact hown.mono fun p hp => .tail _ (List.mem_flatMap.2 ⟨branch, hbranch, hp⟩)

/-- **What becomes of a copy of a skeleton** is the same along a redirection. -/
theorem fillElement_along {attributes : List (String × Interpolation)} {children : List (Entry N)}
    (hown : Scope.AgreeAlong σ (· ∈ attributes.flatMap fun entry => entry.2.paths) a b)
    (hchildren : AlikeAlong σ a b children) (copy : N) :
    (fillElement a attributes children copy).outcome.SameUpTo (RenderError.Along σ)
      (fillElement b (attributes.map (Prod.map id (Interpolation.redirect σ)))
        (redirectAll σ children) copy).outcome := by
  rw [fillElement, fillElement, Traced.outcome_bind, Traced.outcome_bind,
    Filling.outcome_attributes, Filling.outcome_attributes]
  refine (((Filling.values_along hown).map _).mapError fun _ _ => .path).bind fun target => ?_
  rw [Traced.outcome_bind, Traced.outcome_bind]
  refine (hchildren.fillSlots _).bind fun filled => ?_
  rw [Filling.finish]
  split
  · exact .ok filled.target
  · exact .error (.misaligned _ _)

/-- **What an entry comes to** is the same along a redirection of its own paths, if its parts are alike. -/
theorem output_along {e : Entry N} (hown : Scope.AgreeAlong σ (· ∈ e.ownPaths) a b)
    (hparts : ∀ body ∈ e.parts, AlikeBehind σ a b e.ownNames body) :
    (e.output a).SameUpTo (RenderError.Along σ) ((redirect σ e).output b) := by
  cases e with
  | static node =>
    rw [redirect, output_static, output_static]
    exact .complete [Host.clone node]
  | leaf text =>
    rw [redirect, output_leaf, output_leaf]
    exact .given (fun _ _ => .path) (Interpolation.render_along hown) fun content _ =>
      .complete [Host.ofText content]
  | element skeleton attributes children =>
    rw [redirect, output_element, output_element]
    exact .ofResult ((fillElement_along hown (hparts children (.head _)).here _).map _)
  | flow f =>
    rw [redirect]
    exact output_flow_along hown hparts

/-- **What an entry does to the slots of an element** is the same, too. -/
theorem fillSlots_cons_along {e : Entry N} {rest : List (Entry N)}
    (hown : Scope.AgreeAlong σ (· ∈ e.ownPaths) a b)
    (hparts : ∀ body ∈ e.parts, AlikeBehind σ a b e.ownNames body) (hrest : AlikeAlong σ a b rest)
    (filling : Filling N) :
    (fillSlots a (e :: rest) filling).outcome.SameUpTo (RenderError.Along σ)
      (fillSlots b (redirect σ e :: redirectAll σ rest) filling).outcome := by
  have hnone : (Traced.error filling.noSlotLeft : Traced (Filling N)).outcome.SameUpTo
      (RenderError.Along σ) (Traced.error filling.noSlotLeft : Traced (Filling N)).outcome :=
    .error (.misaligned _ _)
  cases e with
  | static node =>
    rw [redirect, fillSlots, fillSlots]
    split
    · exact hrest.fillSlots _
    · exact hnone
  | leaf text =>
    rw [redirect, fillSlots, fillSlots]
    split
    · rw [Traced.outcome_bind, Traced.outcome_bind, Traced.outcome_ofPath, Traced.outcome_ofPath]
      refine ((Interpolation.render_along hown).mapError fun _ _ => .path).bind fun content => ?_
      exact hrest.fillSlots _
    · exact hnone
  | element skeleton attributes children =>
    have hchildren : AlikeAlong σ a b children := (hparts children (.head _)).here
    rw [redirect]
    by_cases hslot : filling.hasSlot = true
    · rcases hfocus : Host.focusChild? filling.target filling.position with _ | ⟨slot, put⟩
      · rw [fillSlots, fillSlots, if_pos hslot, if_pos hslot, hfocus]
        exact .error (.misaligned _ _)
      · rw [fillSlots_element _ _ _ _ _ hslot hfocus, fillSlots_element _ _ _ _ _ hslot hfocus,
          Traced.outcome_bind, Traced.outcome_bind]
        exact (fillElement_along hown hchildren slot).bind fun node => hrest.fillSlots _
    · rw [fillSlots, fillSlots, if_neg hslot, if_neg hslot]
      exact hnone
  | flow f =>
    have hflow := output_flow_along hown hparts
    rw [output_flow, output_flow] at hflow
    rw [redirect, fillSlots, fillSlots, Traced.outcome_bind, Traced.outcome_bind, Filling.insertAll,
      Filling.insertAll, Rendering.outcome_foldUntilError, Rendering.outcome_foldUntilError]
    exact (hflow.result.map _).bind fun filled => hrest.fillSlots _

/-- **Entries come to the same along a redirection** in any two scopes whose relation lasts behind whatever
the entries bind. -/
theorem alikeAlong {R : Scope → Scope → Prop} : ∀ entries : List (Entry N),
    Scope.Lasting σ (Uses entries) (Binds entries) R → ∀ {a b}, R a b → AlikeAlong σ a b entries := by
  refine Entry.induction ?_ fun e rest hparts hrest => ?_
  · intro _ a b _
    refine ⟨.complete [], fun filling => ?_⟩
    rw [redirectAll, fillSlots, fillSlots]
    exact .ok filling
  · intro hlasting a b hR
    have hown : Scope.AgreeAlong σ (· ∈ e.ownPaths) a b :=
      (hlasting.agree hR).mono fun p hp => (uses_cons e rest p).2 (.inl hp)
    have hinside : ∀ body ∈ e.parts, AlikeBehind σ a b e.ownNames body := by
      intro body hbody bindings hbindings
      refine hparts body hbody (hlasting.mono (fun p hp => ?_) fun name hname => ?_)
        (hlasting.derive hR fun binding hmem => (binds_cons e rest _).2 (.inl (hbindings binding hmem)))
      · exact (uses_cons e rest p).2 (.inr (.inl ⟨body, hbody, hp⟩))
      · exact (binds_cons e rest name).2 (.inr (.inl ⟨body, hbody, hname⟩))
    have hbehind : AlikeAlong σ a b rest :=
      hrest (hlasting.mono (fun p hp => (uses_cons e rest p).2 (.inr (.inr hp)))
        fun name hname => (binds_cons e rest name).2 (.inr (.inr hname))) hR
    refine ⟨?_, fun filling => ?_⟩
    · rw [redirectAll, outputs_cons, outputs_cons]
      exact (output_along hown hinside).append hbehind.outputs
    · rw [redirectAll]
      exact fillSlots_cons_along hown hinside hbehind filling

end Entry

end Stencil
