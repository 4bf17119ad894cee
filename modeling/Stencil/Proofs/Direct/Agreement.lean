import Stencil.Proofs.Direct.Basic
import Stencil.Proofs.Entry.Element
import Stencil.Render.Template

/-!
# Proofs/Direct/Agreement — compiling and rendering is walking the source

    nodes ──read──▸ Source ──compile──▸ Entry ──outputs──▸ Output
      └────────────── Direct.render (Painter.host) ──────────▸┘

Over a faithful host a template that is read without an error comes to what the walk along its source
comes to (`Template.items_render`).  Texts and elements are painted with the host's own operations,
so nothing is assumed of the nodes.
-/

namespace Stencil

variable {N : Type} [Host N] [Faithful N]

/-- A text with its placeholders filled in, and an element with its attributes filled in and its
children exchanged. -/
def Painter.host (placeholder : Placeholder) : Painter N where
  text scope node content :=
    if (Interpolation.ofText placeholder content).isDynamic then
      .given ((Interpolation.ofText placeholder content).render scope) fun filled =>
        .single (Host.ofText filled)
    else .single node
  element scope node inside :=
    .given (Filling.values scope (dynamicAttributes placeholder node)) fun values =>
      inside.wrap (Faithful.withChildren (Filling.setAll (bareSkeleton placeholder node) values))

omit [Faithful N] in
/-- What is neither a directive nor a text is an element. -/
theorem Options.text?_of_role_element {options : Options} {node : N}
    (h : options.role node = .element) : Host.text? node = none := by
  rw [role] at h
  split at h
  · cases h
  · split at h
    · cases h
    · assumption

omit [Faithful N] in
/-- What is a text has its content. -/
theorem Options.text?_of_role_text {options : Options} {node : N} {content : String}
    (h : options.role node = .text content) : Host.text? node = some content := by
  rw [role] at h
  split at h
  · cases h
  · split at h
    · next hcontent =>
      obtain rfl := Role.text.inj h
      exact hcontent
    · cases h

namespace Source

variable {options : Options}

/-! ## What parts of a template come to -/

section Parts

variable (placeholder : Placeholder) (scope : Scope)

omit [Faithful N]

/-- What parts of a template come to once they are compiled. -/
def outputs (items : List (Source N)) : Output N :=
  Entry.outputs scope (compileAll placeholder items)

/-- What a body that may be absent comes to. -/
def outputOption (body? : Option (List (Source N))) : Output N :=
  Entry.outputOption scope (compileOption placeholder body?)

/-- What comes first among branches. -/
def choose {G : Type} (holds : G → Except PathError Bool) (fallback : Output N)
    (branches : List (Branch G (Source N))) : Output N :=
  .choose holds (outputs placeholder scope) fallback branches

/-- The output of the first part in front of that of the others. -/
theorem outputs_cons (item : Source N) (rest : List (Source N)) :
    outputs placeholder scope (item :: rest) =
      (compile placeholder item).output scope ++ outputs placeholder scope rest := by
  rw [outputs, compileAll, Entry.outputs_cons, outputs]

theorem outputOption_some (body : List (Source N)) :
    outputOption placeholder scope (some body) = outputs placeholder scope body := by
  rw [outputOption, compileOption, Entry.outputOption_some, outputs]

theorem outputOption_none :
    outputOption placeholder scope (none : Option (List (Source N))) = .nil := by
  rw [outputOption, compileOption, Entry.outputOption_none]

/-- The branches of a chain are chosen among as they were read. -/
theorem choose_compileElseIfs (fallback : Output N) (elseIfs : List (Branch Condition (Source N))) :
    .choose (·.evaluate scope) (Entry.outputs scope) fallback (compileElseIfs placeholder elseIfs) =
      choose placeholder scope (·.evaluate scope) fallback elseIfs := by
  induction elseIfs with
  | nil => rw [compileElseIfs]; rfl
  | cons branch rest ih =>
    obtain ⟨condition, body⟩ := branch
    rw [compileElseIfs, Output.choose, ih]
    rfl

/-- The cases of a switch are chosen among as they were read. -/
theorem choose_compileCases (subject : Path) (fallback : Output N)
    (cases : List (Branch Operand (Source N))) :
    .choose (scope.equals subject) (Entry.outputs scope) fallback (compileCases placeholder cases) =
      choose placeholder scope (scope.equals subject) fallback cases := by
  induction cases with
  | nil => rw [compileCases]; rfl
  | cons branch rest ih =>
    obtain ⟨operand, body⟩ := branch
    rw [compileCases, Output.choose, ih]
    rfl

end Parts

variable (scope : Scope)

/-- A text comes to what the walk makes of it. -/
theorem output_text (node : N) (content : String) :
    (compile options.placeholder (.text node content)).output scope =
      (Painter.host options.placeholder).text scope node content := by
  rw [compile, Entry.ofText]
  change Entry.output scope (ite _ _ _) = ite _ _ _
  split
  · exact Entry.output_leaf scope _
  · rw [Entry.output_static, Faithful.clone_eq, Faithful.clone_eq]

/-- An element comes to what the walk makes of it and of what is inside. -/
theorem output_element {node : N} (h : Host.text? node = none) (inside : List (Source N)) :
    (compile options.placeholder (.element node inside)).output scope =
      (Painter.host options.placeholder).element scope node
        (outputs options.placeholder scope inside) := by
  rw [compile]
  exact Entry.output_ofElement scope h _

omit [Faithful N] in
theorem output_conditional (condition : Condition) (body : List (Source N))
    (elseIfs : List (Branch Condition (Source N))) (otherwise? : Option (List (Source N))) :
    (compile options.placeholder (.flow (.conditional condition body elseIfs otherwise?))).output scope =
      .given (condition.evaluate scope) fun holds =>
        if holds then outputs options.placeholder scope body
        else choose options.placeholder scope (·.evaluate scope)
          (outputOption options.placeholder scope otherwise?) elseIfs := by
  rw [compile, compileFlow, Entry.output_conditional, Output.choose, choose_compileElseIfs]
  rfl

omit [Faithful N] in
theorem output_loop (loop : Loop) (body : List (Source N)) (otherwise? : Option (List (Source N))) :
    (compile options.placeholder (.flow (.loop loop body otherwise?))).output scope =
      .given (loop.scopes scope) fun scopes =>
        if scopes.isEmpty then outputOption options.placeholder scope otherwise?
        else .rounds loop.toTop
          (scopes.map fun round => outputs options.placeholder round body) := by
  rw [compile, compileFlow, Entry.output_loop]
  rfl

omit [Faithful N] in
theorem output_binding (bindings : List (String × Path)) (body : List (Source N)) :
    (compile options.placeholder (.flow (.binding bindings body))).output scope =
      .given (scope.values bindings) fun values =>
        outputs options.placeholder (scope.derive values) body := by
  rw [compile, compileFlow, Entry.output_binding]
  rfl

omit [Faithful N] in
theorem output_switch (subject : Path) (cases : List (Branch Operand (Source N)))
    (otherwise? : Option (List (Source N))) :
    (compile options.placeholder (.flow (.switch subject cases otherwise?))).output scope =
      choose options.placeholder scope (scope.equals subject)
        (outputOption options.placeholder scope otherwise?) cases := by
  rw [compile, compileFlow, Entry.output_switch, choose_compileCases]
  rfl

/-! ## The walk agrees -/

/-- A tree whose body, and whose cases if it is a switch, come to what the walk comes to. -/
structure Agrees (options : Options) (t : Tree N) : Prop where
  body : ∀ {items : List (Source N)}, readBody options t = .ok items → ∀ scope : Scope,
    outputs options.placeholder scope items =
      Direct.body options (Painter.host options.placeholder) scope t
  switch : ∀ {cases : List (Branch Operand (Source N))} {otherwise? : Option (List (Source N))},
    readSwitch options t = .ok (cases, otherwise?) → ∀ (scope : Scope) (subject : Path),
      choose options.placeholder scope (scope.equals subject)
          (outputOption options.placeholder scope otherwise?) cases =
        Direct.switch options (Painter.host options.placeholder) scope subject t

/-- What the companions of an open directive come to if the directive has nothing to show. -/
def companionOutput (placeholder : Placeholder) (scope : Scope) (pairing : Pairing)
    (companions : Companions (Source N)) : Output N :=
  match pairing with
  | .closed => .nil
  | .conditional =>
      choose placeholder scope (·.evaluate scope)
        (outputOption placeholder scope companions.otherwise?) companions.elseIfs
  | .loop => outputOption placeholder scope companions.otherwise?

/-- What the walk makes of the companions of an open directive. -/
def companionWalk (options : Options) (scope : Scope) (pairing : Pairing) (ts : List (Tree N)) :
    Output N :=
  match pairing with
  | .closed => .nil
  | .conditional => Direct.elseBranch options (Painter.host options.placeholder) scope ts
  | .loop => Direct.loopElse options (Painter.host options.placeholder) scope ts

omit [Faithful N] in
theorem companionOutput_none (placeholder : Placeholder) (pairing : Pairing) :
    companionOutput (N := N) placeholder scope pairing .none = .nil := by
  rcases pairing with _ | _ | _
  · rfl
  · exact outputOption_none placeholder scope
  · exact outputOption_none placeholder scope

/-- The walk looks past blank texts and comments. -/
theorem companionWalk_of_passes {t : Tree N} (h : (options.role t.node).passes = true)
    (pairing : Pairing) (rest : List (Tree N)) :
    companionWalk options scope pairing (t :: rest) = companionWalk options scope pairing rest := by
  rcases role : options.role t.node with content | _ | ⟨tag, _ | keyword⟩ <;> rw [role] at h
  · have hblank : Text.blank content = true := h
    rcases pairing with _ | _ | _ <;>
      simp only [companionWalk, Direct.elseBranch, Direct.loopElse, role, hblank, if_true]
  · exact absurd h Bool.false_ne_true
  · exact absurd h Bool.false_ne_true
  · rcases keyword with _ | _ | _ | _ | _ | _ | _ | _ | _ | _
    case comment =>
      rcases pairing with _ | _ | _ <;>
        simp only [companionWalk, Direct.elseBranch, Direct.loopElse, role]
    all_goals exact absurd h Bool.false_ne_true

/-- The walk finds no companion behind what is neither one nor passed over. -/
theorem companionWalk_of_ends {t : Tree N} (h : (options.role t.node).ends = true)
    (pairing : Pairing) (rest : List (Tree N)) :
    companionWalk options scope pairing (t :: rest) = .nil := by
  rcases role : options.role t.node with content | _ | ⟨tag, _ | keyword⟩ <;> rw [role] at h
  · have hblank : Text.blank content = false := Bool.not_eq_true' _ ▸ h
    rcases pairing with _ | _ | _ <;>
      simp only [companionWalk, Direct.elseBranch, Direct.loopElse, role, hblank,
        Bool.false_eq_true, if_false]
  · rcases pairing with _ | _ | _ <;>
      simp only [companionWalk, Direct.elseBranch, Direct.loopElse, role]
  · exact absurd h Bool.false_ne_true
  · rcases pairing with _ | _ | _ <;> rcases keyword with _ | _ | _ | _ | _ | _ | _ | _ | _ | _ <;>
      first
        | exact absurd h Bool.false_ne_true
        | simp only [companionWalk, Direct.elseBranch, Direct.loopElse, role]

/-- Siblings that come to what the walk along them comes to, and so do the companions among them. -/
structure SiblingsAgree (options : Options) (scope : Scope) (pairing : Pairing) (ts : List (Tree N))
    (companions : Companions (Source N)) (items : List (Source N)) : Prop where
  items : outputs options.placeholder scope items =
    Direct.siblings options (Painter.host options.placeholder) scope ts
  companions : companionOutput options.placeholder scope pairing companions =
    companionWalk options scope pairing ts

section Steps

variable {scope} {pairing : Pairing} {t : Tree N} {rest : List (Tree N)} {items : List (Source N)}

/-- A node that comes to what its item comes to, and ends what is open before it. -/
theorem SiblingsAgree.item {item : Source N} (hends : (options.role t.node).ends = true)
    (hrest : outputs options.placeholder scope items =
      Direct.siblings options (Painter.host options.placeholder) scope rest)
    (hwalk : Direct.siblings options (Painter.host options.placeholder) scope (t :: rest) =
      (compile options.placeholder item).output scope ++
        Direct.siblings options (Painter.host options.placeholder) scope rest) :
    SiblingsAgree options scope pairing (t :: rest) .none (item :: items) where
  items := by rw [outputs_cons, hrest, hwalk]
  companions := by rw [companionOutput_none, companionWalk_of_ends scope hends]

/-- A node that comes to nothing by itself. -/
theorem SiblingsAgree.dropped {companions : Companions (Source N)}
    (hrest : outputs options.placeholder scope items =
      Direct.siblings options (Painter.host options.placeholder) scope rest)
    (hwalk : Direct.siblings options (Painter.host options.placeholder) scope (t :: rest) =
      .nil ++ Direct.siblings options (Painter.host options.placeholder) scope rest)
    (hcompanions : companionOutput options.placeholder scope pairing companions =
      companionWalk options scope pairing (t :: rest)) :
    SiblingsAgree options scope pairing (t :: rest) companions items where
  items := by rw [hrest, hwalk, Output.nil_append]
  companions := hcompanions

end Steps

/-- **Siblings come to what the walk along them comes to**, if the trees below agree. -/
theorem SiblingsRead.agrees {pairing : Pairing} {ts : List (Tree N)}
    {companions : Companions (Source N)} {items : List (Source N)}
    (h : SiblingsRead options pairing ts companions items) (hbelow : ∀ t ∈ ts, Agrees options t) :
    SiblingsAgree options scope pairing ts companions items := by
  induction h with
  | @nil pairing =>
    refine ⟨by rw [Direct.siblings]; rfl, ?_⟩
    rw [companionOutput_none]
    rcases pairing with _ | _ | _ <;> simp only [companionWalk, Direct.elseBranch, Direct.loopElse]
  | @text pairing t rest content companions items role behind ih =>
    have hrest := ih fun c hc => hbelow c (.tail _ hc)
    have hwalk : Direct.siblings options (Painter.host options.placeholder) scope (t :: rest) =
        (compile options.placeholder (.text t.node content)).output scope ++
          Direct.siblings options (Painter.host options.placeholder) scope rest := by
      simp only [Direct.siblings, role, output_text]
    rcases hblank : Text.blank content with _ | _
    · rw [hblank] at behind
      rw [behind.eq_none]
      exact .item (by rw [role, Role.ends, hblank]; rfl) hrest.items hwalk
    · have hcompanions := hrest.companions
      rw [hblank] at hcompanions
      refine ⟨by rw [outputs_cons, hrest.items, hwalk], ?_⟩
      rw [companionWalk_of_passes scope (by rw [role, Role.passes, hblank])]
      exact hcompanions
  | @element pairing t rest inside companions items role body behind ih =>
    have hrest := ih fun c hc => hbelow c (.tail _ hc)
    have hinside := (hbelow t (.head _)).body body scope
    rw [behind.eq_none]
    refine .item (by rw [role]; rfl) hrest.items ?_
    rw [output_element scope (Options.text?_of_role_element role), hinside]
    simp only [Direct.siblings, role]
  | @conditional pairing t rest tag condition inside own items role reads body behind ih =>
    have hrest := ih fun c hc => hbelow c (.tail _ hc)
    have hinside := (hbelow t (.head _)).body body scope
    have hother : choose options.placeholder scope (·.evaluate scope)
        (outputOption options.placeholder scope own.otherwise?) own.elseIfs =
          Direct.elseBranch options (Painter.host options.placeholder) scope rest := hrest.companions
    refine .item (by rw [role]; rfl) hrest.items ?_
    rw [output_conditional, hother, hinside]
    simp only [Direct.siblings, role, Direct.onCondition, reads, Output.stated_ok]
  | @elseIf t rest tag condition inside companions items role reads body behind ih =>
    have hrest := ih fun c hc => hbelow c (.tail _ hc)
    have hinside := (hbelow t (.head _)).body body scope
    have hwalk : companionWalk options scope .conditional (t :: rest) =
        .given (condition.evaluate scope) fun holds =>
          if holds then Direct.body options (Painter.host options.placeholder) scope t
          else companionWalk options scope .conditional rest := by
      simp only [companionWalk, Direct.elseBranch, role, Direct.onCondition, reads, Output.stated_ok]
    refine .dropped hrest.items (by simp only [Direct.siblings, role]) ?_
    rw [hwalk, ← hrest.companions, ← hinside]
    rfl
  | @otherwise t rest tag inside companions items role body behind ih =>
    have hrest := ih fun c hc => hbelow c (.tail _ hc)
    have hinside := (hbelow t (.head _)).body body scope
    refine .dropped hrest.items (by simp only [Direct.siblings, role]) ?_
    refine (outputOption_some _ scope inside).trans ?_
    rw [hinside]
    simp only [companionWalk, Direct.elseBranch, role]
  | @loop pairing t rest tag loop inside own items role reads body behind ih =>
    have hrest := ih fun c hc => hbelow c (.tail _ hc)
    have hother : outputOption options.placeholder scope own.otherwise? =
        Direct.loopElse options (Painter.host options.placeholder) scope rest := hrest.companions
    have hrounds : (fun round => outputs options.placeholder round inside) = fun round =>
        Direct.body options (Painter.host options.placeholder) round t :=
      funext fun round => (hbelow t (.head _)).body body round
    refine .item (by rw [role]; rfl) hrest.items ?_
    rw [output_loop, hother, hrounds]
    simp only [Direct.siblings, role, Direct.onLoop, reads, Output.stated_ok]
  | @loopElse t rest tag inside companions items role body behind ih =>
    have hrest := ih fun c hc => hbelow c (.tail _ hc)
    have hinside := (hbelow t (.head _)).body body scope
    refine .dropped hrest.items (by simp only [Direct.siblings, role]) ?_
    refine (outputOption_some _ scope inside).trans ?_
    rw [hinside]
    simp only [companionWalk, Direct.loopElse, role]
  | @binding pairing t rest tag inside companions items role body behind ih =>
    have hrest := ih fun c hc => hbelow c (.tail _ hc)
    have hinside : (fun values => outputs options.placeholder (scope.derive values) inside) =
        fun values =>
          Direct.body options (Painter.host options.placeholder) (scope.derive values) t :=
      funext fun values => (hbelow t (.head _)).body body _
    rw [behind.eq_none]
    refine .item (by rw [role]; rfl) hrest.items ?_
    rw [output_binding, hinside]
    simp only [Direct.siblings, role, Direct.onBinding]
  | @switch pairing t rest tag subject cases otherwise? companions items role reads body behind ih =>
    have hrest := ih fun c hc => hbelow c (.tail _ hc)
    have hinside := (hbelow t (.head _)).switch body scope ⟨subject⟩
    rw [behind.eq_none]
    refine .item (by rw [role]; rfl) hrest.items ?_
    rw [output_switch, hinside]
    simp only [Direct.siblings, role, reads, Output.stated_ok]
  | @comment pairing t rest tag companions items role behind ih =>
    have hrest := ih fun c hc => hbelow c (.tail _ hc)
    refine .dropped hrest.items (by simp only [Direct.siblings, role]) ?_
    rw [companionWalk_of_passes scope (by rw [role]; rfl)]
    exact hrest.companions

/-- The default of a switch that has been read. -/
theorem CasesRead.default_agrees {hasDefault : Bool} {ts : List (Tree N)}
    {cases : List (Branch Operand (Source N))} {otherwise? : Option (List (Source N))}
    (h : CasesRead options hasDefault ts cases otherwise?) (hbelow : ∀ t ∈ ts, Agrees options t) :
    outputOption options.placeholder scope otherwise? =
      if hasDefault then .nil
      else Direct.defaultCase options (Painter.host options.placeholder) scope ts := by
  induction h with
  | @nil hasDefault =>
    rw [outputOption_none, Direct.defaultCase, ite_self]
  | @case hasDefault t rest tag operand inside cases otherwise? role reads body behind ih =>
    rw [ih fun c hc => hbelow c (.tail _ hc)]
    simp only [Direct.defaultCase, role]
  | @caseDefault t rest tag inside cases otherwise? role body behind ih =>
    rw [outputOption_some, (hbelow t (.head _)).body body scope]
    simp only [Direct.defaultCase, role, Bool.false_eq_true, if_false]
  | @comment hasDefault t rest tag cases otherwise? role behind ih =>
    rw [ih fun c hc => hbelow c (.tail _ hc)]
    simp only [Direct.defaultCase, role]
  | @blank hasDefault t rest content cases otherwise? role hblank behind ih =>
    rw [ih fun c hc => hbelow c (.tail _ hc)]
    simp only [Direct.defaultCase, role]

/-- **The children of a switch come to what the walk along them comes to**, whatever the default is. -/
theorem CasesRead.agrees {hasDefault : Bool} {ts : List (Tree N)}
    {cases : List (Branch Operand (Source N))} {otherwise? : Option (List (Source N))}
    (h : CasesRead options hasDefault ts cases otherwise?) (hbelow : ∀ t ∈ ts, Agrees options t)
    (subject : Path) (fallback : Output N) :
    choose options.placeholder scope (scope.equals subject) fallback cases =
      Direct.firstCase options (Painter.host options.placeholder) scope subject fallback ts := by
  induction h with
  | nil => rw [Direct.firstCase]; rfl
  | @case hasDefault t rest tag operand inside cases otherwise? role reads body behind ih =>
    simp only [Direct.firstCase, role, Direct.onCase, reads]
    rw [← ih fun c hc => hbelow c (.tail _ hc), ← (hbelow t (.head _)).body body scope]
    rfl
  | @caseDefault t rest tag inside cases otherwise? role body behind ih =>
    rw [ih fun c hc => hbelow c (.tail _ hc)]
    simp only [Direct.firstCase, role]
  | @comment hasDefault t rest tag cases otherwise? role behind ih =>
    rw [ih fun c hc => hbelow c (.tail _ hc)]
    simp only [Direct.firstCase, role]
  | @blank hasDefault t rest content cases otherwise? role hblank behind ih =>
    rw [ih fun c hc => hbelow c (.tail _ hc)]
    simp only [Direct.firstCase, role]

/-- **Every tree comes to what the walk comes to.** -/
theorem agrees : ∀ t : Tree N, Agrees options t :=
  Tree.induction fun t hbelow =>
    { body := by
        intro items h scope
        obtain ⟨companions, hread⟩ := siblingsRead_of_readBody h
        rw [Direct.body_eq]
        exact (hread.agrees scope hbelow).items
      switch := by
        intro cases otherwise? h scope subject
        rw [readSwitch_eq] at h
        have hread := casesRead_of_eq_ok h
        rw [Direct.switch_eq, hread.default_agrees scope hbelow]
        exact hread.agrees scope hbelow subject _ }

end Source

/-- **Compiling and rendering is walking the source**: what a compiled template hands out, item by item
and with the error that ends it, is the output of the walk. -/
theorem Template.items_render {options : Options} {nodes : List N} {template : Template N}
    (h : Template.compile options nodes = .ok template) (scope : Scope) :
    Step.items (template.render scope).steps =
      (Direct.render options (Painter.host options.placeholder) scope nodes).items := by
  obtain ⟨items, hread, rfl⟩ := Except.ok_of_map h
  obtain ⟨⟨companions, _⟩, hsiblings, rfl⟩ := Except.ok_of_map hread
  have hagrees := (Source.siblingsRead_of_eq_ok hsiblings).agrees scope fun t _ => Source.agrees t
  exact (Entry.items_renderAll scope _).trans (congrArg Output.items hagrees.items)

end Stencil
