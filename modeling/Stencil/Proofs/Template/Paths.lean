import Stencil.Proofs.Direct.Agreement
import Stencil.Proofs.Direct.Simulation
import Stencil.Proofs.Interpolation

/-!
# Proofs/Template/Paths — the paths that are written in a template

Every use of a path that fails names that path, as it was written (`FailsOn`).  So whatever goes wrong
while a template is rendered is put down to a path that is written in it: in a placeholder of a text or
of an element's attribute, or in an attribute of a directive that takes one
(`Template.path_of_mem_items`).
-/

namespace Stencil

/-- The path that an error is about. -/
def PathError.path : PathError → Path
  | .undefined path _ => path
  | .mismatch path _ _ => path

/-! ## Uses of paths -/

/-- A result that can only fail on some paths. -/
def FailsOn {α : Type} (paths : List Path) (r : Except PathError α) : Prop :=
  ∀ e, r = .error e → e.path ∈ paths

namespace FailsOn

variable {α β : Type} {paths : List Path} {r : Except PathError α}

theorem ok (a : α) : FailsOn paths (.ok a : Except PathError α) := fun _ h => nomatch h

/-- A result that fails on some paths only fails on more of them. -/
theorem mono {more : List Path} (h : FailsOn paths r) (hsub : paths ⊆ more) : FailsOn more r :=
  fun e he => hsub (h e he)

/-- Of two steps each fails on the paths. -/
theorem bind {f : α → Except PathError β} (h : FailsOn paths r) (hf : ∀ a, FailsOn paths (f a)) :
    FailsOn paths (r.bind f) := by
  rcases r with e | a
  · intro e' he
    obtain rfl := Except.error.inj he
    exact h _ rfl
  · exact hf a

theorem map {f : α → β} (h : FailsOn paths r) : FailsOn paths (r.map f) := by
  rcases r with e | a
  · intro e' he
    obtain rfl := Except.error.inj he
    exact h _ rfl
  · exact ok (f a)

/-- Of many steps each fails on the paths. -/
theorem mapM {f : α → Except PathError β} : ∀ {as : List α}, (∀ a ∈ as, FailsOn paths (f a)) →
    FailsOn paths (as.mapM f)
  | [], _ => by
      rw [List.mapM_nil]
      exact ok []
  | a :: rest, h => by
      rw [List.mapM_cons]
      refine (h a (.head _)).bind fun b => ?_
      exact (mapM fun c hc => h c (.tail _ hc)).bind fun bs => ok (b :: bs)

end FailsOn

section Uses

variable (scope : Scope)

/-- **A lookup fails on the path that is looked up.** -/
theorem Scope.failsOn_lookup (path : Path) : FailsOn [path] (scope.lookup path) := by
  intro e h
  rw [lookup] at h
  split at h
  · cases h
  · obtain rfl := Except.error.inj h
    exact List.mem_singleton.2 rfl

/-- A value of the wrong shape is put down to its path as well. -/
theorem Scope.failsOn_view {α : Type} (path : Path) (expected : Shape) (read : Value → Option α) :
    FailsOn [path] (scope.view path expected read) := by
  intro e h
  rw [view] at h
  split at h
  · next e' hlookup =>
    obtain rfl := Except.error.inj h
    exact failsOn_lookup scope path _ hlookup
  · split at h
    · cases h
    · obtain rfl := Except.error.inj h
      exact List.mem_singleton.2 rfl

/-- The paths of an operand. -/
def Operand.paths : Operand → List Path
  | literal _ => []
  | path p => [p]

/-- A literal never fails. -/
theorem Operand.failsOn_forms (operand : Operand) : FailsOn operand.paths (operand.forms scope) := by
  rcases operand with text | p
  · exact .ok _
  · exact (scope.failsOn_view p _ _).bind fun text => (scope.failsOn_lookup p).bind fun value => .ok _

theorem Operand.failsOn_double (operand : Operand) :
    FailsOn operand.paths (operand.double scope) := by
  rcases operand with text | p
  · exact .ok _
  · exact scope.failsOn_view p _ _

/-- Either side of an equality may fail. -/
theorem Scope.failsOn_equals (path : Path) (operand : Operand) :
    FailsOn (path :: operand.paths) (scope.equals path operand) := by
  refine (((Operand.path path).failsOn_forms scope).mono ?_).bind fun own => ?_
  · exact List.cons_subset_cons path (List.nil_subset operand.paths)
  · refine ((operand.failsOn_forms scope).mono ?_).bind fun other => .ok _
    exact List.subset_cons_self path _

/-- The paths of a condition. -/
def Condition.paths (condition : Condition) : List Path :=
  condition.test :: (condition.equal?.toList.flatMap Operand.paths
    ++ condition.comparisons.flatMap fun comparison => comparison.2.paths)

/-- Comparisons fail on the path that is tested or on one of their own; behind one that is false nothing is
looked up. -/
theorem failsOn_compareAll (test : Path) : ∀ (comparisons : List (Comparison × Operand))
    (sofar : Option Bool),
    FailsOn (test :: comparisons.flatMap fun comparison => comparison.2.paths)
      (compareAll scope test sofar comparisons)
  | [], sofar => by
      rw [compareAll]
      exact .ok sofar
  | (comparison, operand) :: rest, sofar => by
      by_cases hstop : sofar = some false
      · rw [hstop]
        exact .ok _
      · rw [compareAll.eq_3 _ _ _ _ _ _ hstop]
        refine ((scope.failsOn_view test _ _).mono ?_).bind fun left => ?_
        · exact List.cons_subset_cons test (List.nil_subset _)
        · refine ((operand.failsOn_double scope).mono ?_).bind fun right => ?_
          · intro p hp
            exact .tail _ (List.mem_append.2 (.inl hp))
          · refine (failsOn_compareAll test rest _).mono ?_
            exact List.cons_subset_cons test fun p hp => List.mem_append.2 (.inr hp)

/-- **A condition fails on its own paths.** -/
theorem Condition.failsOn_evaluate (condition : Condition) :
    FailsOn condition.paths (condition.evaluate scope) := by
  have htest : [condition.test] ⊆ condition.paths :=
    List.cons_subset_cons condition.test (List.nil_subset _)
  refine ((scope.failsOn_lookup condition.test).mono htest).bind fun value => ?_
  refine FailsOn.bind ?_ fun result => .ok _
  rw [core]
  split
  · exact .ok _
  · refine FailsOn.bind ?_ fun sofar => ?_
    · rw [equalTest]
      split
      · exact .ok _
      · next operand hequal =>
        refine ((scope.failsOn_equals condition.test operand).mono ?_).map
        rw [paths, hequal]
        exact List.cons_subset_cons _ fun p hp => by simp [hp]
    · refine ((failsOn_compareAll scope condition.test _ sofar).mono ?_).bind fun result => .ok _
      exact List.cons_subset_cons _ fun p hp => List.mem_append.2 (.inr hp)

/-- A loop fails on the path that it runs over. -/
theorem Loop.failsOn_scopes (loop : Loop) : FailsOn [loop.iterable] (loop.scopes scope) := by
  refine FailsOn.map ?_
  rw [items]
  split
  · exact (scope.failsOn_view loop.iterable _ _).map
  · exact (scope.failsOn_view loop.iterable _ _).map

theorem Scope.failsOn_values (bindings : List (String × Path)) :
    FailsOn (bindings.map Prod.snd) (scope.values bindings) :=
  .mapM fun binding hmem => ((scope.failsOn_lookup binding.2).mono (List.cons_subset.2
    ⟨List.mem_map_of_mem hmem, List.nil_subset _⟩)).map

end Uses

/-! ## Outputs -/

/-- An output that can only end with an error about some paths. -/
def Output.FailsOn {N : Type} (paths : List Path) (o : Output N) : Prop :=
  ∀ e, o.error? = some e → ∃ p : PathError, e = .path p ∧ p.path ∈ paths

namespace Output.FailsOn

variable {N α : Type} {paths : List Path} {a b : Output N}

theorem nil : (Output.nil : Output N).FailsOn paths := fun _ h => nomatch h

theorem single (node : N) : (Output.single node).FailsOn paths := fun _ h => nomatch h

/-- What comes behind an error does not count. -/
theorem append (ha : a.FailsOn paths) (hb : b.FailsOn paths) : (a ++ b).FailsOn paths := by
  obtain ⟨nodes, _ | e⟩ := a
  · exact hb
  · exact ha

/-- An output may fail with what it needs, or once it has it. -/
theorem given {r : Except PathError α} {next : α → Output N} (hr : Stencil.FailsOn paths r)
    (hnext : ∀ x, (next x).FailsOn paths) : (Output.given r next).FailsOn paths := by
  rcases r with p | x
  · intro e he
    obtain rfl := Option.some.inj he
    exact ⟨p, rfl, hr p rfl⟩
  · exact hnext x

/-- What a template that compiles states is never in error. -/
theorem stated {r : Except TemplateError α} {next : α → Output N}
    (hnext : ∀ x, r = .ok x → (next x).FailsOn paths) : (Output.stated r next).FailsOn paths := by
  rcases r with e | x
  · exact nil
  · exact hnext x rfl

/-- An element fails with what is inside of it. -/
theorem wrap (f : List N → N) (ha : a.FailsOn paths) : (a.wrap f).FailsOn paths := by
  obtain ⟨nodes, _ | e⟩ := a
  · exact single _
  · exact ha

theorem concat {blocks : List (Output N)} (h : ∀ block ∈ blocks, block.FailsOn paths) :
    (Output.concat blocks).FailsOn paths := by
  induction blocks with
  | nil => exact nil
  | cons block rest ih => exact (h block (.head _)).append (ih fun c hc => h c (.tail _ hc))

/-- The error of several outputs is the error of one of them. -/
theorem of_mapM_result {blocks : List (Output N)} (h : ∀ block ∈ blocks, block.FailsOn paths)
    {e : RenderError} (he : blocks.mapM Output.result = .error e) :
    ∃ p : PathError, e = .path p ∧ p.path ∈ paths := by
  induction blocks with
  | nil => exact nomatch he
  | cons block rest ih =>
    have hblock := h block (.head _)
    rw [List.mapM_cons] at he
    obtain ⟨nodes, _ | e'⟩ := block
    · rcases hrest : rest.mapM Output.result with e' | others
      · rw [hrest] at he
        obtain rfl := Except.error.inj he
        exact ih (fun c hc => h c (.tail _ hc)) hrest
      · rw [hrest] at he
        exact nomatch he
    · obtain rfl := Except.error.inj he
      exact hblock _ rfl

/-- **Rounds fail like one of them**, in whatever order their nodes come. -/
theorem rounds (toTop : Bool) {blocks : List (Output N)}
    (h : ∀ block ∈ blocks, block.FailsOn paths) : (Output.rounds toTop blocks).FailsOn paths := by
  rw [Output.rounds]
  split
  · intro e he
    rcases hresult : blocks.mapM Output.result with e' | nodes
    · rw [hresult] at he
      obtain rfl := Option.some.inj he
      exact of_mapM_result h hresult
    · rw [hresult] at he
      exact nomatch he
  · exact concat h

end Output.FailsOn

/-! ## Paths in a template -/

/-- The path of a placeholder. -/
def Pattern.Piece.path? : Pattern.Piece → Option Path
  | .letter _ => none
  | .placeholder _ expression => some ⟨String.ofList expression⟩

/-- The paths in the placeholders of a text. -/
def Placeholder.paths (placeholder : Placeholder) (raw : String) : List Path :=
  (placeholder.pieces raw.toList).filterMap Pattern.Piece.path?

/-- **A text fails on the path of one of its placeholders.** -/
theorem Scope.failsOn_substitute (scope : Scope) : ∀ pieces : List Pattern.Piece,
    FailsOn (pieces.filterMap Pattern.Piece.path?) (scope.substitute pieces)
  | [] => .ok ""
  | .letter c :: rest => (failsOn_substitute scope rest).map
  | .placeholder _ expression :: rest => by
      refine FailsOn.bind ((scope.failsOn_view ⟨String.ofList expression⟩ _ _).mono ?_) fun value => ?_
      · exact List.cons_subset_cons _ (List.nil_subset (rest.filterMap Pattern.Piece.path?))
      · exact ((failsOn_substitute scope rest).mono (List.subset_cons_self _ _)).map

section Written

variable {N : Type} [Host N]

/-- The path in an attribute, if the attribute is there. -/
def Host.path? (node : N) (name : String) : Option Path := (Host.attribute? node name).map Path.mk

/-- The path in an attribute that is marked as one by another with `-v` behind its name. -/
def Host.markedPath? (node : N) (name : String) : Option Path :=
  if Host.hasAttribute node (name ++ "-v") then Host.path? node name else none

/-- **The paths that are written at a node**, by what the node is. -/
def Options.ownPaths (options : Options) (node : N) : List Path :=
  match options.role node with
  | .text content => options.placeholder.paths content
  | .element =>
      (Host.attributeNames node).flatMap fun name =>
        ((Host.attribute? node name).map options.placeholder.paths).getD []
  | .directive _ (some .conditional) | .directive _ (some .elseIf) =>
      (Host.path? node "test").toList
        ++ ["eq", "gt", "ge", "lt", "le"].flatMap fun name => (Host.markedPath? node name).toList
  | .directive _ (some .loop) => (Host.path? node "in").toList
  | .directive _ (some .binding) => (Host.attributeNames node).filterMap (Host.path? node)
  | .directive _ (some .switch) => (Host.path? node "value").toList
  | .directive _ (some .case) => (Host.markedPath? node "value").toList
  | _ => []

mutual
/-- The paths that are written in a tree; texts and comments hide what is below them. -/
def Tree.paths (options : Options) : Tree N → List Path
  | .mk node below =>
      options.ownPaths node ++ if (options.role node).opens then allPaths options below else []
/-- The paths that are written in some trees. -/
def Tree.allPaths (options : Options) : List (Tree N) → List Path
  | [] => []
  | t :: rest => paths options t ++ allPaths options rest
end

mutual
/-- A tree is related to itself by what holds of the paths that are written at its nodes. -/
theorem Tree.related_of_paths {options : Options} {written : List Path} : ∀ {t : Tree N},
    Tree.paths options t ⊆ written →
      Tree.Related options (fun n n' => n' = n ∧ options.ownPaths n ⊆ written) t t
  | .mk node below, h => by
      rw [Tree.paths] at h
      obtain ⟨hown, hbelow⟩ := List.append_subset.1 h
      refine .mk ⟨rfl, hown⟩ fun hopens => ?_
      rw [if_pos hopens] at hbelow
      exact Tree.allRelated_of_paths hbelow
theorem Tree.allRelated_of_paths {options : Options} {written : List Path} : ∀ {ts : List (Tree N)},
    Tree.allPaths options ts ⊆ written →
      Tree.AllRelated options (fun n n' => n' = n ∧ options.ownPaths n ⊆ written) ts ts
  | [], _ => .nil
  | t :: rest, h => by
      rw [Tree.allPaths] at h
      obtain ⟨hhead, htail⟩ := List.append_subset.1 h
      exact .cons (Tree.related_of_paths hhead) (Tree.allRelated_of_paths htail)
end

/-! ## What can go wrong with what is written -/

/-- What is required is there. -/
theorem attribute?_of_requiredAttribute {node : N} {tag name value : String}
    (h : requiredAttribute node tag name = .ok value) : Host.attribute? node name = some value := by
  rw [requiredAttribute] at h
  split at h
  · next hvalue =>
    obtain rfl := Except.ok.inj h
    exact hvalue
  · cases h

/-- An operand is a path where its attribute is marked as one. -/
theorem paths_operand? (node : N) (name : String) :
    (operand? node name).toList.flatMap Operand.paths = (Host.markedPath? node name).toList := by
  rw [operand?, Host.markedPath?, Host.path?]
  rcases Host.attribute? node name with _ | raw
  · split <;> rfl
  · rcases Host.hasAttribute node (name ++ "-v") with _ | _ <;> rfl

/-- The paths in comparisons are those in their marked attributes. -/
theorem paths_comparisons (node : N) (comparisons : List Comparison) :
    (comparisons.filterMap fun comparison =>
        (operand? node comparison.label).map (comparison, ·)).flatMap (fun c => c.2.paths) =
      comparisons.flatMap fun comparison => (Host.markedPath? node comparison.label).toList := by
  induction comparisons with
  | nil => rfl
  | cons comparison rest ih =>
    rw [List.flatMap_cons, ← ih, ← paths_operand?]
    rcases hoperand : operand? node comparison.label with _ | operand
    · rw [List.filterMap_cons_none (by rw [hoperand]; rfl)]
      rfl
    · rw [List.filterMap_cons_some (by rw [hoperand]; rfl), List.flatMap_cons,
        Option.toList_some, List.flatMap_singleton]

/-- The paths of a condition are written in its test and in the marked attributes. -/
theorem paths_readCondition {node : N} {tag : String} {condition : Condition}
    (h : readCondition node tag = .ok condition) :
    condition.paths = (Host.path? node "test").toList
      ++ ["eq", "gt", "ge", "lt", "le"].flatMap fun name => (Host.markedPath? node name).toList := by
  obtain ⟨test, htest, rfl⟩ := Except.ok_of_map h
  rw [Condition.paths, paths_operand?, paths_comparisons, Host.path?,
    attribute?_of_requiredAttribute htest]
  rfl

/-- The path of a loop is written in its `in`. -/
theorem iterable_of_readLoop {node : N} {tag : String} {loop : Loop}
    (h : readLoop node tag = .ok loop) : Host.path? node "in" = some loop.iterable := by
  obtain ⟨iterable, hiterable, h⟩ := Except.ok_of_bind h
  obtain ⟨_, _, h⟩ := Except.ok_of_bind h
  obtain ⟨_, _, h⟩ := Except.ok_of_bind h
  obtain rfl := Except.ok.inj h
  rw [Host.path?, attribute?_of_requiredAttribute hiterable]
  rfl

/-- Each attribute of a binding is a path. -/
theorem paths_readBindings (node : N) :
    (readBindings node).map Prod.snd = (Host.attributeNames node).filterMap (Host.path? node) := by
  rw [readBindings, List.map_filterMap]
  refine congrArg (List.filterMap · _) (funext fun name => ?_)
  rw [Host.path?, Option.map_map]
  rfl

variable [Faithful N] {options : Options} {written : List Path}

/-- A text fails on the paths in its placeholders. -/
theorem failsOn_text {node : N} {content : String} (scope : Scope)
    (h : options.placeholder.paths content ⊆ written) :
    ((Painter.host options.placeholder).text scope node content).FailsOn written := by
  change Output.FailsOn _ (ite _ _ _)
  split
  · rw [Interpolation.render_ofText]
    exact .given ((scope.failsOn_substitute _).mono h) fun filled => .single _
  · exact .single _

/-- An element fails on the paths in its attributes, or as what is inside of it does. -/
theorem failsOn_element {node : N} {inside : Output N} (scope : Scope)
    (h : ((Host.attributeNames node).flatMap fun name =>
      ((Host.attribute? node name).map options.placeholder.paths).getD []) ⊆ written)
    (hinside : inside.FailsOn written) :
    ((Painter.host options.placeholder).element scope node inside).FailsOn written := by
  refine .given (.mapM fun entry hentry => .map ?_) fun values => .wrap _ hinside
  obtain ⟨name, hname, hentry⟩ := List.mem_filterMap.1 hentry
  obtain ⟨raw, hraw, hentry⟩ := Option.bind_eq_some_iff.1 hentry
  have htext : entry.2 = Interpolation.ofText options.placeholder raw := by
    change ite _ _ _ = _ at hentry
    split at hentry
    · exact Option.some.inj hentry ▸ rfl
    · cases hentry
  rw [htext, Interpolation.render_ofText]
  refine (scope.failsOn_substitute _).mono fun p hp => h (List.mem_flatMap.2 ⟨name, hname, ?_⟩)
  rw [hraw]
  exact hp

/-- A case fails on the subject or on its own value, or as what is chosen does. -/
theorem failsOn_case {node : N} {subject : Path} {body other : Output N} (scope : Scope)
    (hsubject : subject ∈ written) (h : (Host.markedPath? node "value").toList ⊆ written)
    (hbody : body.FailsOn written) (hother : other.FailsOn written) :
    (Direct.onCase scope subject node body other).FailsOn written := by
  rw [Direct.onCase]
  have hpaths := paths_operand? node "value"
  split
  · exact .nil
  · next operand hoperand =>
    rw [hoperand] at hpaths
    refine .given ((scope.failsOn_equals subject operand).mono ?_) fun found => ?_
    · refine List.cons_subset.2 ⟨hsubject, fun p hp => h ?_⟩
      rw [← hpaths]
      simpa using hp
    · rcases found with _ | _
      · exact hother
      · exact hbody

/-- Along nodes whose paths are among those that are written, the walk fails on these only. -/
theorem Direct.failsOn_simulation (options : Options) (written : List Path) :
    Simulation options (Painter.host options.placeholder) (Painter.host options.placeholder)
      (fun n n' : N => n' = n ∧ options.ownPaths n ⊆ written) (· ∈ written)
      (fun o _ => o.FailsOn written) where
  role := by
    rintro _ n ⟨rfl, -⟩
    rfl
  nil := .nil
  append := .append
  text := by
    rintro _ n content scope ⟨rfl, hown⟩ hrole
    rw [Options.ownPaths, hrole] at hown
    exact failsOn_text scope hown
  element := by
    rintro _ n a _ scope ⟨rfl, hown⟩ hrole ha
    rw [Options.ownPaths, hrole] at hown
    exact failsOn_element scope hown ha
  condition := by
    rintro _ n tag keyword a _ b _ scope ⟨rfl, hown⟩ hrole hkeyword ha hb
    refine .stated fun condition hcondition => .given ?_ fun holds => ?_
    · refine (condition.failsOn_evaluate scope).mono ?_
      rw [paths_readCondition hcondition]
      rw [Options.ownPaths, hrole] at hown
      rcases hkeyword with rfl | rfl <;> exact hown
    · rcases holds with _ | _
      · exact hb
      · exact ha
  loop := by
    rintro _ n tag b _ a _ scope ⟨rfl, hown⟩ hrole ha hb
    rw [Options.ownPaths, hrole] at hown
    refine .stated fun loop hloop => .given ?_ fun scopes => ?_
    · refine (loop.failsOn_scopes scope).mono ?_
      rw [iterable_of_readLoop hloop] at hown
      exact hown
    · rcases scopes.isEmpty with _ | _
      · refine .rounds loop.toTop fun block hblock => ?_
        obtain ⟨round, -, rfl⟩ := List.mem_map.1 hblock
        exact ha round
      · exact hb
  binding := by
    rintro _ n tag a _ scope ⟨rfl, hown⟩ hrole ha
    rw [Options.ownPaths, hrole] at hown
    refine .given ((scope.failsOn_values _).mono ?_) fun values => ha _
    rw [paths_readBindings]
    exact hown
  switch := by
    rintro _ n tag a _ ⟨rfl, hown⟩ hrole ha
    refine .stated fun subject hsubject => ha ⟨subject⟩ (hown ?_)
    have hpath : Host.path? n "value" = some ⟨subject⟩ :=
      congrArg (Option.map Path.mk) (attribute?_of_requiredAttribute hsubject)
    rw [Options.ownPaths, hrole]
    exact hpath ▸ .head _
  case := by
    rintro _ n tag subject a _ b _ scope ⟨rfl, hown⟩ hrole hsubject ha hb
    rw [Options.ownPaths, hrole] at hown
    exact failsOn_case scope hsubject hown ha hb

/-- **Whatever goes wrong is put down to a path that is written in the template.** -/
theorem Template.path_of_mem_items {nodes : List N} {template : Template N}
    (h : Template.compile options nodes = .ok template) (scope : Scope) {e : RenderError}
    (he : .error e ∈ Step.items (template.render scope).steps) :
    ∃ p : PathError, e = .path p ∧ p.path ∈ Tree.allPaths options (nodes.map Host.tree) := by
  have hrelated := Tree.allRelated_of_paths
    (List.Subset.refl (Tree.allPaths options (nodes.map (Host.tree (N := N)))))
  have hfails := (Direct.failsOn_simulation options _).siblings scope hrelated
  rw [Template.items_render h scope, Output.items, List.mem_append] at he
  rcases he with he | he
  · obtain ⟨_, _, he⟩ := List.mem_map.1 he
    exact nomatch he
  · obtain ⟨e', he', he⟩ := List.mem_map.1 he
    obtain rfl := Except.error.inj he
    exact hfails _ (Option.mem_toList.1 he')

end Written

end Stencil
