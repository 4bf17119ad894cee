import Mathlib.Data.List.Forall2
import Stencil.Proofs.Dictionary
import Stencil.Proofs.Direct.Basic
import Stencil.Proofs.Filling
import Stencil.Proofs.Template.Alike

/-!
# Proofs/Direct/Alike — walking two trees of alike nodes

Over alike nodes two walks make the same decisions.  They may bind names in another order, but what they
bind is the same; only which of several errors is met first depends on the order.  So if their texts and
elements come to alike outputs, with nodes carried over by `f`, the walks do
(`Direct.alike_simulation`).
-/

/-- Two results that are both there and related, or both errors. -/
inductive Except.Matches {ε ε' α β : Type} (P : α → β → Prop) : Except ε α → Except ε' β → Prop
  | ok {a : α} {b : β} (h : P a b) : Matches P (.ok a) (.ok b)
  | error (e : ε) (e' : ε') : Matches P (.error e) (.error e')

namespace Except

variable {ε α β γ δ : Type}

/-- What is made of the members of a list is made of one of them. -/
theorem mem_mapM {f : α → Except ε β} {l : List α} {bs : List β} (h : l.mapM f = .ok bs) (b : β) :
    b ∈ bs ↔ ∃ a ∈ l, f a = .ok b := by
  induction l generalizing bs with
  | nil =>
    obtain rfl := Except.ok.inj h
    simp
  | cons a rest ih =>
    rw [List.mapM_cons] at h
    rcases hhead : f a with e | c
    · rw [hhead] at h
      exact nomatch h
    · rcases htail : rest.mapM f with e | cs
      · rw [hhead, htail] at h
        exact nomatch h
      · rw [hhead, htail] at h
        obtain rfl := Except.ok.inj h
        simp [ih htail, hhead, eq_comm]

/-- Something is made of all members of a list if it is of each. -/
theorem mapM_ok_iff {f : α → Except ε β} {l : List α} :
    (∃ bs, l.mapM f = .ok bs) ↔ ∀ a ∈ l, ∃ b, f a = .ok b := by
  induction l with
  | nil => exact ⟨fun _ a ha => (nomatch ha), fun _ => ⟨[], rfl⟩⟩
  | cons a rest ih =>
    rw [List.forall_mem_cons, ← ih, List.mapM_cons]
    rcases f a with e | c
    · exact ⟨fun ⟨bs, h⟩ => (nomatch h), fun ⟨⟨b, h⟩, _⟩ => (nomatch h)⟩
    · rcases rest.mapM f with e | cs
      · exact ⟨fun ⟨bs, h⟩ => (nomatch h), fun ⟨_, bs, h⟩ => (nomatch h)⟩
      · exact ⟨fun _ => ⟨⟨c, rfl⟩, cs, rfl⟩, fun _ => ⟨c :: cs, rfl⟩⟩

namespace Matches

/-- What follows for results that are both there. -/
theorem imp {ε' : Type} {P Q : α → β → Prop} {x : Except ε α} {y : Except ε' β} (hx : x.Matches P y)
    (h : ∀ a b, x = .ok a → y = .ok b → P a b → Q a b) : x.Matches Q y := by
  rcases hx with hP | ⟨e, e'⟩
  · exact .ok (h _ _ rfl rfl hP)
  · exact .error e e'

theorem map {ε' : Type} {P : α → β → Prop} {Q : γ → δ → Prop} {x : Except ε α} {y : Except ε' β}
    {f : α → γ} {g : β → δ} (hx : x.Matches P y) (h : ∀ a b, P a b → Q (f a) (g b)) :
    (x.map f).Matches Q (y.map g) := by
  rcases hx with hP | ⟨e, e'⟩
  · exact .ok (h _ _ hP)
  · exact .error e e'

theorem bind {ε' : Type} {P : α → β → Prop} {Q : γ → δ → Prop} {x : Except ε α} {y : Except ε' β}
    {f : α → Except ε γ} {g : β → Except ε' δ} (hx : x.Matches P y)
    (h : ∀ a b, P a b → (f a).Matches Q (g b)) : (x >>= f).Matches Q (y >>= g) := by
  rcases hx with hP | ⟨e, e'⟩
  · exact h _ _ hP
  · exact .error e e'

/-- **Of the same members the same is made**, in whatever order. -/
theorem mapM {f : α → Except ε β} {l l' : List α} (hsame : ∀ a, a ∈ l ↔ a ∈ l') :
    Matches (fun bs bs' => ∀ b, b ∈ bs ↔ b ∈ bs') (l.mapM f) (l'.mapM f) := by
  have hboth : (∃ bs, l.mapM f = .ok bs) ↔ ∃ bs, l'.mapM f = .ok bs := by
    simp only [mapM_ok_iff, hsame]
  rcases h : l.mapM f with e | bs <;> rcases h' : l'.mapM f with e' | bs'
  · exact .error e e'
  · obtain ⟨bs, hbs⟩ := hboth.2 ⟨bs', h'⟩
    exact nomatch h.symm.trans hbs
  · obtain ⟨bs', hbs'⟩ := hboth.1 ⟨bs, h⟩
    exact nomatch h'.symm.trans hbs'
  · refine .ok fun b => ?_
    rw [mem_mapM h, mem_mapM h']
    simp only [hsame]

end Matches

end Except

namespace Stencil

/-! ## Names with one value -/

/-- Values that are looked up are one for each name, if what is looked up is. -/
theorem Assoc.Single.mapM {α β ε : Type} {f : α → Except ε β} {l : Assoc α} {values : Assoc β}
    (hsingle : Single l) (h : (l.mapM fun entry => (f entry.2).map (entry.1, ·)) = .ok values) :
    Single values := by
  have hsource : ∀ {name value}, (name, value) ∈ values → ∃ a, (name, a) ∈ l ∧ f a = .ok value := by
    intro name value hmem
    obtain ⟨⟨key, a⟩, ha, hvalue⟩ := (Except.mem_mapM h _).1 hmem
    obtain ⟨b, hb, heq⟩ := Except.ok_of_map hvalue
    obtain ⟨rfl, rfl⟩ := Prod.mk.inj heq
    exact ⟨a, ha, hb⟩
  intro name value other hvalue hother
  obtain ⟨a, ha, hfa⟩ := hsource hvalue
  obtain ⟨a', ha', hfa'⟩ := hsource hother
  obtain rfl := hsingle ha ha'
  exact Except.ok.inj (hfa.symm.trans hfa')

/-- A binding binds each name once. -/
theorem single_readBindings {N : Type} [Host N] {node : N} (h : Host.Lists node) :
    Assoc.Single (readBindings node) := by
  intro name path other hpath hother
  have heq := ((mem_readBindings h).1 hpath).symm.trans ((mem_readBindings h).1 hother)
  exact congrArg Path.mk (Option.some.inj heq)

/-- Each attribute is filled in once. -/
theorem single_dynamicAttributes {N : Type} [Host N] {node : N} (placeholder : Placeholder)
    (h : Host.Lists node) : Assoc.Single (dynamicAttributes placeholder node) := by
  intro name text other htext hother
  obtain ⟨raw, hraw, rfl, -⟩ := (mem_dynamicAttributes placeholder h).1 htext
  obtain ⟨raw', hraw', rfl, -⟩ := (mem_dynamicAttributes placeholder h).1 hother
  exact congrArg _ (Option.some.inj (hraw.symm.trans hraw'))

/-- Values that are filled in are one for each attribute. -/
theorem single_values {N : Type} [Host N] {node : N} {placeholder : Placeholder} {scope : Scope}
    {values : Assoc String} (h : Host.Lists node)
    (hvalues : Filling.values scope (dynamicAttributes placeholder node) = .ok values) :
    Assoc.Single values := by
  have hsingle := single_dynamicAttributes placeholder h
  rw [Filling.values] at hvalues
  exact hsingle.mapM (f := fun text => text.render scope) hvalues

/-! ## Alike outputs -/

variable {N M : Type}

/-- Outputs with the same nodes up to `f`, that both end with an error or both do not. -/
structure Output.Alike (f : N → M) (a : Output N) (b : Output M) : Prop where
  nodes : b.nodes = a.nodes.map f
  error : b.error?.isSome = a.error?.isSome

namespace Output.Alike

variable {f : N → M} {a : Output N} {a' : Output M} {b : Output N} {b' : Output M}

theorem nil : Alike f .nil .nil := ⟨rfl, rfl⟩

theorem single (node : N) : Alike f (.single node) (.single (f node)) := ⟨rfl, rfl⟩

theorem fail (e e' : RenderError) : Alike f (.fail e) (.fail e') := ⟨rfl, rfl⟩

/-- **Alike outputs one behind the other are alike**: an error on one side is one on the other. -/
theorem append (ha : Alike f a a') (hb : Alike f b b') : Alike f (a ++ b) (a' ++ b') := by
  obtain ⟨nodes, _ | e⟩ := a <;> obtain ⟨nodes', _ | e'⟩ := a'
  · refine ⟨?_, hb.error⟩
    obtain rfl : nodes' = nodes.map f := ha.nodes
    change nodes.map f ++ b'.nodes = (nodes ++ b.nodes).map f
    rw [hb.nodes, List.map_append]
  · exact nomatch ha.error
  · exact nomatch ha.error
  · exact ⟨ha.nodes, rfl⟩

/-- What is needed on both sides is there, or missing, together. -/
theorem given {α β : Type} {P : α → β → Prop} {r : Except PathError α} {r' : Except PathError β}
    {next : α → Output N} {next' : β → Output M} (hr : r.Matches P r')
    (hnext : ∀ x y, P x y → Alike f (next x) (next' y)) :
    Alike f (.given r next) (.given r' next') := by
  rcases hr with hP | ⟨e, e'⟩
  · exact hnext _ _ hP
  · exact fail _ _

theorem given_same {α : Type} (r : Except PathError α) {next : α → Output N} {next' : α → Output M}
    (hnext : ∀ x, Alike f (next x) (next' x)) : Alike f (.given r next) (.given r next') := by
  rcases r with e | x
  · exact fail _ _
  · exact hnext x

theorem stated {α : Type} (r : Except TemplateError α) {next : α → Output N} {next' : α → Output M}
    (hnext : ∀ x, Alike f (next x) (next' x)) : Alike f (.stated r next) (.stated r next') := by
  rcases r with e | x
  · exact nil
  · exact hnext x

/-- What is put around alike nodes is alike. -/
theorem wrap {g : List N → N} {g' : List M → M} (ha : Alike f a a')
    (hg : ∀ nodes, g' (nodes.map f) = f (g nodes)) : Alike f (a.wrap g) (a'.wrap g') := by
  obtain ⟨nodes, _ | e⟩ := a <;> obtain ⟨nodes', _ | e'⟩ := a'
  · obtain rfl : nodes' = nodes.map f := ha.nodes
    change Alike f (.single (g nodes)) (.single (g' (nodes.map f)))
    rw [hg]
    exact single (g nodes)
  · exact nomatch ha.error
  · exact nomatch ha.error
  · exact fail _ _

/-- All nodes of alike outputs match. -/
theorem result (ha : Alike f a a') : a.result.Matches (fun nodes nodes' => nodes' = nodes.map f)
    a'.result := by
  obtain ⟨nodes, _ | e⟩ := a <;> obtain ⟨nodes', _ | e'⟩ := a'
  · exact .ok ha.nodes
  · exact nomatch ha.error
  · exact nomatch ha.error
  · exact .error _ _

/-- Alike outputs one after another. -/
theorem concat {α : Type} {g : α → Output N} {g' : α → Output M} (h : ∀ x, Alike f (g x) (g' x))
    (as : List α) : Alike f (.concat (as.map g)) (.concat (as.map g')) := by
  induction as with
  | nil => exact nil
  | cons x rest ih => exact (h x).append ih

/-- The results of alike blocks match, block by block. -/
theorem mapM_result {α : Type} {g : α → Output N} {g' : α → Output M}
    (h : ∀ x, Alike f (g x) (g' x)) (as : List α) :
    ((as.map g).mapM Output.result).Matches
      (fun blocks blocks' => blocks' = blocks.map (List.map f))
      ((as.map g').mapM Output.result) := by
  induction as with
  | nil => exact .ok rfl
  | cons x rest ih =>
    rw [List.map_cons, List.map_cons, List.mapM_cons, List.mapM_cons]
    refine (h x).result.bind fun block block' hblock => ih.bind fun blocks blocks' hblocks => .ok ?_
    rw [hblock, hblocks, List.map_cons]

theorem ofResult {r : Except RenderError (List N)} {r' : Except RenderError (List M)}
    (hr : r.Matches (fun nodes nodes' => nodes' = nodes.map f) r') :
    Alike f (.ofResult r) (.ofResult r') := by
  rcases hr with hnodes | ⟨e, e'⟩
  · exact ⟨hnodes, rfl⟩
  · exact fail e e'

/-- The rounds of two loops are alike if each round is. -/
theorem rounds {α : Type} {g : α → Output N} {g' : α → Output M} (h : ∀ x, Alike f (g x) (g' x))
    (toTop : Bool) (as : List α) :
    Alike f (.rounds toTop (as.map g)) (.rounds toTop (as.map g')) := by
  rw [Output.rounds, Output.rounds]
  split
  · refine ofResult ((mapM_result h as).map fun blocks blocks' hblocks => ?_)
    rw [hblocks, List.map_flatten, List.map_reverse]
  · exact concat h as

/-- **What is handed out is alike, item by item.** -/
theorem items (ha : Alike f a a') :
    List.Forall₂ (Except.Matches fun node node' => node' = f node) a.items a'.items := by
  have hnodes : List.Forall₂ (Except.Matches fun node node' => node' = f node)
      (a.nodes.map Except.ok : List (Except RenderError N))
      (a'.nodes.map Except.ok : List (Except RenderError M)) := by
    rw [ha.nodes, List.map_map, List.forall₂_map_left_iff, List.forall₂_map_right_iff,
      List.forall₂_same]
    exact fun node _ => .ok rfl
  refine List.rel_append hnodes ?_
  obtain ⟨nodes, _ | e⟩ := a <;> obtain ⟨nodes', _ | e'⟩ := a'
  · exact .nil
  · exact nomatch ha.error
  · exact nomatch ha.error
  · exact .cons (.error e e') .nil

end Output.Alike

/-! ## Alike walks -/

variable [Host N] [Host M]

/-- Alike nodes bind the same names to the same values, or both fail to. -/
theorem Host.Alike.derive_eq {n : N} {m : M} (h : Host.Alike n m) (scope : Scope) :
    (scope.values (readBindings n)).Matches
      (fun values values' => scope.derive values' = scope.derive values)
      (scope.values (readBindings m)) := by
  have hmatches := Except.Matches.mapM (f := fun binding : String × Path =>
    (scope.lookup binding.2).map (binding.1, ·)) h.mem_readBindings
  refine hmatches.imp fun values values' hvalues _ hsame => ?_
  have hsingle := (single_readBindings h.lists).mapM hvalues
  rw [Scope.derive, Scope.derive, Dictionary.insertAll_congr hsingle hsame]

/-- **Two walks of alike nodes are alike**, if the texts and the elements are painted alike. -/
theorem Direct.alike_simulation {options : Options} {painter : Painter N} {painter' : Painter M}
    {P : N → M → Prop} {f : N → M} (halike : ∀ {n m}, P n m → Host.Alike n m)
    (htext : ∀ {n m content} (scope : Scope), P n m → options.role n = .text content →
      Output.Alike f (painter.text scope n content) (painter'.text scope m content))
    (helement : ∀ {n m a a'} (scope : Scope), P n m → options.role n = .element →
      Output.Alike f a a' →
      Output.Alike f (painter.element scope n a) (painter'.element scope m a')) :
    Simulation options painter painter' P (fun _ => True) (Output.Alike f) where
  role h := (halike h).role_eq
  nil := .nil
  append := .append
  text := htext
  element := helement
  condition := by
    intro n m tag keyword a a' b b' scope h _ _ ha hb
    rw [onCondition, onCondition, (halike h).readCondition_eq]
    refine .stated _ fun condition => .given_same _ fun holds => ?_
    rcases holds with _ | _
    · exact hb
    · exact ha
  loop := by
    intro n m tag b b' a a' scope h _ ha hb
    rw [onLoop, onLoop, (halike h).readLoop_eq]
    refine .stated _ fun loop => .given_same _ fun scopes => ?_
    rcases scopes.isEmpty with _ | _
    · exact .rounds ha loop.toTop scopes
    · exact hb
  binding := by
    intro n m tag a a' scope h _ ha
    refine .given ((halike h).derive_eq scope) fun values values' hsame => ?_
    rw [hsame]
    exact ha _
  switch := by
    intro n m tag a a' h _ ha
    rw [(halike h).requiredAttribute_eq]
    exact .stated _ fun subject => ha ⟨subject⟩ trivial
  case := by
    intro n m tag subject a a' b b' scope h _ _ ha hb
    rw [onCase, onCase, (halike h).operand?_eq]
    split
    · exact .nil
    · refine .given_same _ fun found => ?_
      rcases found with _ | _
      · exact hb
      · exact ha

end Stencil
