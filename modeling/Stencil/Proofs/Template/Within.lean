import Stencil.Proofs.Entry.Parts
import Stencil.Proofs.Template.Reading

/-!
# Proofs/Template/Within — what lies in a compiled template

However deep an entry lies in a compiled template, in elements or in the bodies of directives, it is what a
single part of the template is compiled to.  So what holds of these (`Entry.OfSource`) holds of every entry
(`Template.of_within`).
-/

namespace Stencil

namespace Entry

variable {N : Type} [Host N]

/-- Whether something holds of what single parts of a template are compiled to, whatever becomes of the parts
below them. -/
structure OfSource (options : Options) (P : Entry N → Prop) : Prop where
  static (node : N) : P (.static node)
  leaf (text : Interpolation) : P (.leaf text)
  flow (f : Flow (Entry N)) : P (.flow f)
  element {node : N} (role : options.role node = .element) (children : List (Entry N)) :
    P (.ofElement options.placeholder node children)

variable {P : Entry N → Prop}

/-- Entries of which something holds, and of all below them. -/
def AllWithin (P : Entry N → Prop) (entries : List (Entry N)) : Prop :=
  ∀ e : Entry N, e.Within entries → P e

omit [Host N] in
theorem allWithin_nil : AllWithin P [] := by
  intro e h
  cases h

omit [Host N] in
/-- What holds of an entry, of what lies below it and of the others. -/
theorem AllWithin.cons {x : Entry N} {rest : List (Entry N)} (hx : P x)
    (hparts : ∀ body ∈ x.parts, AllWithin P body) (hrest : AllWithin P rest) : AllWithin P (x :: rest)
  | _, .here => hx
  | e, .part mem inside => hparts _ mem e inside
  | e, .later behind => hrest e behind

end Entry

namespace Source

variable {N : Type} [Host N] {options : Options} {P : Entry N → Prop}

open Entry (AllWithin OfSource)

/-! ## Bodies are compiled one by one -/

section Bodies

variable (placeholder : Placeholder)

/-- The bodies of `else-if` branches are compiled one by one. -/
theorem bodies_compileElseIfs (elseIfs : List (Branch Condition (Source N))) :
    (compileElseIfs placeholder elseIfs).map Branch.body =
      elseIfs.map fun branch => compileAll placeholder branch.body := by
  induction elseIfs with
  | nil => rw [compileElseIfs]; rfl
  | cons branch rest ih => rw [compileElseIfs, List.map_cons, ih]; rfl

/-- The bodies of cases are compiled one by one. -/
theorem bodies_compileCases (cases : List (Branch Operand (Source N))) :
    (compileCases placeholder cases).map Branch.body =
      cases.map fun branch => compileAll placeholder branch.body := by
  induction cases with
  | nil => rw [compileCases]; rfl
  | cons branch rest ih => rw [compileCases, List.map_cons, ih]; rfl

theorem compileOption_eq_map (body? : Option (List (Source N))) :
    compileOption placeholder body? = body?.map (compileAll placeholder) := by
  rcases body? with _ | body
  · rw [compileOption]; rfl
  · rw [compileOption]; rfl

end Bodies

/-- Parts of a template that are compiled to entries of which something holds, and of all below them. -/
def Compiles (options : Options) (P : Entry N → Prop) (items : List (Source N)) : Prop :=
  AllWithin P (compileAll options.placeholder items)

/-- Branches and a last body that are compiled to such entries. -/
structure BranchesCompile {G : Type} (options : Options) (P : Entry N → Prop)
    (branches : List (Branch G (Source N))) (otherwise? : Option (List (Source N))) : Prop where
  branch : ∀ b ∈ branches, Compiles options P b.body
  otherwise : ∀ body ∈ otherwise?, Compiles options P body

theorem Compiles.cons {item : Source N} {rest : List (Source N)}
    (hitem : P (compile options.placeholder item))
    (hparts : ∀ body ∈ (compile options.placeholder item).parts, AllWithin P body)
    (hrest : Compiles options P rest) : Compiles options P (item :: rest) := by
  rw [Compiles, compileAll]
  exact .cons hitem hparts hrest

/-- A body that may be absent. -/
theorem Compiles.option {body? : Option (List (Source N))}
    (h : ∀ body ∈ body?, Compiles options P body) :
    ∀ body ∈ (body?.map (compileAll options.placeholder)).toList, AllWithin P body := by
  intro body hbody
  obtain ⟨source, hsource, rfl⟩ := Option.map_eq_some_iff.1 (Option.mem_toList.1 hbody)
  exact h source hsource

/-- All bodies of branches and the one that they fall back on. -/
theorem BranchesCompile.bodies {G : Type} {branches : List (Branch G (Source N))}
    {otherwise? : Option (List (Source N))} (h : BranchesCompile options P branches otherwise?) :
    ∀ body ∈ (branches.map fun b => compileAll options.placeholder b.body)
        ++ (otherwise?.map (compileAll options.placeholder)).toList, AllWithin P body := by
  intro body hbody
  rcases List.mem_append.1 hbody with hbody | hbody
  · obtain ⟨b, hb, rfl⟩ := List.mem_map.1 hbody
    exact h.branch b hb
  · exact Compiles.option h.otherwise body hbody

theorem BranchesCompile.none {G : Type} : BranchesCompile options P ([] : List (Branch G (Source N))) .none :=
  ⟨fun _ h => (nomatch h), fun _ h => (nomatch h)⟩

/-! ## Part by part -/

section

variable (hP : OfSource options P)
include hP

/-- A text has no parts. -/
theorem Compiles.text (node : N) (content : String) {rest : List (Source N)}
    (hrest : Compiles options P rest) : Compiles options P (.text node content :: rest) := by
  have hentry : P (compile options.placeholder (.text node content)) ∧
      (compile options.placeholder (.text node content)).parts = [] := by
    rw [compile, Entry.ofText]
    split
    · exact ⟨hP.leaf _, rfl⟩
    · exact ⟨hP.static _, rfl⟩
  refine .cons hentry.1 (fun body hbody => ?_) hrest
  rw [hentry.2] at hbody
  exact absurd hbody List.not_mem_nil

/-- The parts of a directive are its bodies. -/
theorem Compiles.flow {f : Flow (Source N)} {rest : List (Source N)}
    (hbodies : ∀ body ∈ (compileFlow options.placeholder f).bodies, AllWithin P body)
    (hrest : Compiles options P rest) : Compiles options P (.flow f :: rest) := by
  refine .cons ?_ ?_ hrest
  · rw [compile]
    exact hP.flow _
  · rw [compile]
    exact hbodies

/-- The parts of an element are its children; static, it has none. -/
theorem Compiles.element {node : N} (role : options.role node = .element) {inside rest : List (Source N)}
    (hinside : Compiles options P inside) (hrest : Compiles options P rest) :
    Compiles options P (.element node inside :: rest) := by
  refine .cons ?_ (fun body hbody => ?_) hrest
  · rw [compile]
    exact hP.element role _
  · rw [compile, Entry.ofElement] at hbody
    change body ∈ Entry.parts (ite _ _ _) at hbody
    split at hbody
    · exact absurd hbody List.not_mem_nil
    · obtain rfl := List.mem_singleton.1 hbody
      exact hinside

omit hP in
/-- A tree whose body, and whose cases if it is a switch, are compiled to such entries. -/
structure TreeCompiles (options : Options) (P : Entry N → Prop) (t : Tree N) : Prop where
  body : ∀ {items : List (Source N)}, readBody options t = .ok items → Compiles options P items
  switch : ∀ {cases : List (Branch Operand (Source N))} {otherwise? : Option (List (Source N))},
    readSwitch options t = .ok (cases, otherwise?) → BranchesCompile options P cases otherwise?

/-- **What holds of what single parts are compiled to holds everywhere in what siblings are compiled to**, and
in the companions among them. -/
theorem SiblingsRead.compiles {pairing : Pairing} {ts : List (Tree N)}
    {companions : Companions (Source N)} {items : List (Source N)}
    (h : SiblingsRead options pairing ts companions items)
    (hbelow : ∀ t ∈ ts, TreeCompiles options P t) :
    Compiles options P items ∧ BranchesCompile options P companions.elseIfs companions.otherwise? := by
  induction h with
  | nil =>
    refine ⟨?_, .none⟩
    rw [Compiles, compileAll]
    exact Entry.allWithin_nil
  | text role behind ih =>
    obtain ⟨hitems, hcompanions⟩ := ih fun c hc => hbelow c (.tail _ hc)
    exact ⟨.text hP _ _ hitems, hcompanions⟩
  | element role body behind ih =>
    obtain ⟨hitems, hcompanions⟩ := ih fun c hc => hbelow c (.tail _ hc)
    have hinside := (hbelow _ (.head _)).body body
    exact ⟨.element hP role hinside hitems, hcompanions⟩
  | conditional role reads body behind ih =>
    obtain ⟨hitems, hown⟩ := ih fun c hc => hbelow c (.tail _ hc)
    have hinside := (hbelow _ (.head _)).body body
    refine ⟨.flow hP ?_ hitems, .none⟩
    rw [compileFlow, Flow.bodies, bodies_compileElseIfs, compileOption_eq_map]
    exact List.forall_mem_cons.2 ⟨hinside, hown.bodies⟩
  | elseIf role reads body behind ih =>
    obtain ⟨hitems, hcompanions⟩ := ih fun c hc => hbelow c (.tail _ hc)
    have hinside := (hbelow _ (.head _)).body body
    exact ⟨hitems, List.forall_mem_cons.2 ⟨hinside, hcompanions.branch⟩, hcompanions.otherwise⟩
  | otherwise role body behind ih =>
    obtain ⟨hitems, -⟩ := ih fun c hc => hbelow c (.tail _ hc)
    have hinside := (hbelow _ (.head _)).body body
    exact ⟨hitems, List.forall_mem_nil _, fun _ h => Option.some.inj h ▸ hinside⟩
  | loop role reads body behind ih =>
    obtain ⟨hitems, hown⟩ := ih fun c hc => hbelow c (.tail _ hc)
    have hinside := (hbelow _ (.head _)).body body
    refine ⟨.flow hP ?_ hitems, .none⟩
    rw [compileFlow, Flow.bodies, compileOption_eq_map]
    exact List.forall_mem_cons.2 ⟨hinside, Compiles.option hown.otherwise⟩
  | loopElse role body behind ih =>
    obtain ⟨hitems, -⟩ := ih fun c hc => hbelow c (.tail _ hc)
    have hinside := (hbelow _ (.head _)).body body
    exact ⟨hitems, List.forall_mem_nil _, fun _ h => Option.some.inj h ▸ hinside⟩
  | binding role body behind ih =>
    obtain ⟨hitems, hcompanions⟩ := ih fun c hc => hbelow c (.tail _ hc)
    have hinside := (hbelow _ (.head _)).body body
    refine ⟨.flow hP ?_ hitems, hcompanions⟩
    rw [compileFlow, Flow.bodies]
    exact List.forall_mem_singleton.2 hinside
  | switch role reads body behind ih =>
    obtain ⟨hitems, hcompanions⟩ := ih fun c hc => hbelow c (.tail _ hc)
    have hcases := (hbelow _ (.head _)).switch body
    refine ⟨.flow hP ?_ hitems, hcompanions⟩
    rw [compileFlow, Flow.bodies, bodies_compileCases, compileOption_eq_map]
    exact hcases.bodies
  | comment role behind ih => exact ih fun c hc => hbelow c (.tail _ hc)

omit hP in
/-- The same in the cases of a switch. -/
theorem CasesRead.compiles {hasDefault : Bool} {ts : List (Tree N)}
    {cases : List (Branch Operand (Source N))} {otherwise? : Option (List (Source N))}
    (h : CasesRead options hasDefault ts cases otherwise?)
    (hbelow : ∀ t ∈ ts, TreeCompiles options P t) : BranchesCompile options P cases otherwise? := by
  induction h with
  | nil => exact .none
  | case role reads body behind ih =>
    have hrest := ih fun c hc => hbelow c (.tail _ hc)
    have hinside := (hbelow _ (.head _)).body body
    exact ⟨List.forall_mem_cons.2 ⟨hinside, hrest.branch⟩, hrest.otherwise⟩
  | caseDefault role body behind ih =>
    have hrest := ih fun c hc => hbelow c (.tail _ hc)
    have hinside := (hbelow _ (.head _)).body body
    exact ⟨hrest.branch, fun _ h => Option.some.inj h ▸ hinside⟩
  | comment role behind ih => exact ih fun c hc => hbelow c (.tail _ hc)
  | blank role hblank behind ih => exact ih fun c hc => hbelow c (.tail _ hc)

/-- **It holds everywhere in what a tree is compiled to**, by induction on the tree. -/
theorem treeCompiles : ∀ t : Tree N, TreeCompiles options P t :=
  Tree.induction fun t hbelow =>
    { body := by
        intro items h
        obtain ⟨companions, hread⟩ := siblingsRead_of_readBody h
        exact (hread.compiles hP hbelow).1
      switch := by
        intro cases otherwise? h
        rw [readSwitch_eq] at h
        exact (casesRead_of_eq_ok h).compiles hbelow }

end

end Source

/-- **What holds of what single parts are compiled to holds everywhere in a compiled template.** -/
theorem Template.of_within {N : Type} [Host N] {options : Options} {P : Entry N → Prop}
    (hP : Entry.OfSource options P) {nodes : List N} {template : Template N}
    (h : Template.compile options nodes = .ok template) {e : Entry N} (he : e.Within template.entries) :
    P e := by
  obtain ⟨items, hread, rfl⟩ := Except.ok_of_map h
  obtain ⟨⟨companions, _⟩, hsiblings, rfl⟩ := Except.ok_of_map hread
  have hread := Source.siblingsRead_of_eq_ok hsiblings
  exact (hread.compiles hP fun t _ => Source.treeCompiles hP t).1 e he

/-- **An element of a compiled template is what an element of the source is compiled to**, wherever it
lies. -/
theorem Template.made_of_within {N : Type} [Host N] {options : Options} {nodes : List N}
    {template : Template N} (h : Template.compile options nodes = .ok template) {skeleton : N}
    {attributes : List (String × Interpolation)} {children : List (Entry N)}
    (hwithin : (Entry.element skeleton attributes children).Within template.entries) :
    ∃ node inside, options.role node = .element ∧
      Entry.ofElement options.placeholder node inside = .element skeleton attributes children := by
  have hsource : Entry.OfSource options fun e : Entry N => ∀ skeleton attributes children,
      e = .element skeleton attributes children → ∃ node inside, options.role node = .element ∧
        Entry.ofElement options.placeholder node inside = e :=
    ⟨fun _ _ _ _ h => (by cases h), fun _ _ _ _ h => (by cases h), fun _ _ _ _ h => (by cases h),
      fun role inside _ _ _ _ => ⟨_, inside, role, rfl⟩⟩
  exact of_within hsource h hwithin _ _ _ rfl

end Stencil
