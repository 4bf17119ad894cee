import Stencil.Proofs.Direct.Simulation
import Stencil.Proofs.Template.Reading

/-!
# Proofs/Template/Twins — templates that are compiled to the same entries

    t ──read──▸ Source ──compile──▸ entries
    ∥                                 ∥
    t' ─read──▸ Source ──compile──▸ entries

Two nodes are twins if they differ at most in what compiling does not look at: what is below them, which
is compared on its own, and the tags of directives, which leave a trace in errors only.  Trees of twins
are compiled to the very same entries, or refused with the same error but for its tag
(`Source.readSiblings_twins`, `Template.compile_sameButTag`).
-/

/-- Two results that are both there and related, or related errors. -/
inductive Except.Related {ε ε' α β : Type} (E : ε → ε' → Prop) (P : α → β → Prop) :
    Except ε α → Except ε' β → Prop
  | ok {a : α} {b : β} (h : P a b) : Related E P (.ok a) (.ok b)
  | error {e : ε} {e' : ε'} (h : E e e') : Related E P (.error e) (.error e')

namespace Except.Related

variable {ε ε' α β γ δ : Type} {E : ε → ε' → Prop} {P : α → β → Prop} {Q : γ → δ → Prop}
  {x : Except ε α} {y : Except ε' β}

theorem map {f : α → γ} {g : β → δ} (hx : x.Related E P y) (h : ∀ a b, P a b → Q (f a) (g b)) :
    (x.map f).Related E Q (y.map g) := by
  obtain hab | he := hx
  · exact ok (h _ _ hab)
  · exact error he

theorem bind {f : α → Except ε γ} {g : β → Except ε' δ} (hx : x.Related E P y)
    (h : ∀ a b, P a b → (f a).Related E Q (g b)) : (x >>= f).Related E Q (y >>= g) := by
  obtain hab | he := hx
  · exact h _ _ hab
  · exact error he

end Except.Related

namespace Stencil

/-! ## Tags that are renamed -/

/-- A role with the tag of a directive renamed. -/
def Role.rename (f : String → String) : Role → Role
  | .directive tag keyword? => .directive (f tag) keyword?
  | role => role

/-- Without a new name for any tag a role stays as it is. -/
theorem Role.rename_id (role : Role) : role.rename id = role := by cases role <;> rfl

/-- A template error with its tag renamed. -/
def TemplateError.rename (f : String → String) : TemplateError → TemplateError
  | .misplaced tag partner => .misplaced (f tag) partner
  | .missingAttribute tag name => .missingAttribute (f tag) name
  | .invalidAttribute tag name value => .invalidAttribute (f tag) name value
  | .unknownDirective tag => .unknownDirective (f tag)
  | .unexpectedContent tag position => .unexpectedContent (f tag) position

/-- Without a new name for any tag an error stays as it is. -/
theorem TemplateError.rename_id (e : TemplateError) : e.rename id = e := by cases e <;> rfl

/-- Errors that are the same but for a renamed tag. -/
abbrev Renamed (f : String → String) (e e' : TemplateError) : Prop := e' = e.rename f

/-- Results that are the same, or the same error but for a renamed tag. -/
abbrev SameButTag {α : Type} (f : String → String) :
    Except TemplateError α → Except TemplateError α → Prop :=
  Except.Related (Renamed f) fun a b => b = a

/-- Without a new name for any tag, results that are the same but for it are the same. -/
theorem SameButTag.eq {α : Type} {x y : Except TemplateError α} (h : SameButTag id x y) : y = x := by
  obtain rfl | rfl := h
  · rfl
  · exact congrArg Except.error (TemplateError.rename_id _)

/-! ## Twins -/

variable {N : Type} [Host N]

/-- The tag under which an error names a node that is no directive. -/
def Host.plainTag (node : N) : String := (Host.tag? node).getD "#text"

/-- Nodes that differ at most in what is below them and, if they are directives, in their tags. -/
structure Host.Twin (options options' : Options) (f : String → String) (n m : N) : Prop where
  role : options'.role m = (options.role n).rename f
  attributeNames : Host.attributeNames m = Host.attributeNames n
  attribute? (name : String) : Host.attribute? m name = Host.attribute? n name
  text {content : String} (h : options.role n = .text content) : m = n
  shell (h : options.role n = .element) : Host.shell m = Host.shell n
  plainTag (h : options.role n = .element) : Host.plainTag m = f (Host.plainTag n)

namespace Host.Twin

variable {options options' : Options} {f : String → String} {n m : N}

/-- Twins have the same attributes. -/
theorem hasAttribute (h : Twin options options' f n m) (name : String) :
    Host.hasAttribute m name = Host.hasAttribute n name := by
  rw [Host.hasAttribute, Host.hasAttribute, h.attribute?]

/-- Twins state the same operands. -/
theorem operand? (h : Twin options options' f n m) (name : String) :
    Stencil.operand? m name = Stencil.operand? n name := by
  rw [Stencil.operand?, Stencil.operand?, h.attribute?, h.hasAttribute]

theorem readBindings (h : Twin options options' f n m) :
    Stencil.readBindings m = Stencil.readBindings n := by
  simp only [Stencil.readBindings, h.attributeNames, h.attribute?]

/-- What one twin lacks the other lacks as well, and says so with its own tag. -/
theorem requiredAttribute (h : Twin options options' f n m) (tag name : String) :
    SameButTag f (Stencil.requiredAttribute n tag name) (Stencil.requiredAttribute m (f tag) name) := by
  rw [Stencil.requiredAttribute, Stencil.requiredAttribute, h.attribute?]
  rcases Host.attribute? n name with _ | value
  · exact .error rfl
  · exact .ok rfl

/-- A number that cannot be read is told with the tag. -/
theorem numberAttribute (h : Twin options options' f n m) (tag name : String) (absent : Double) :
    SameButTag f (Stencil.numberAttribute n tag name absent)
      (Stencil.numberAttribute m (f tag) name absent) := by
  rw [Stencil.numberAttribute, Stencil.numberAttribute, h.attribute?]
  rcases Host.attribute? n name with _ | raw
  · exact .ok rfl
  · dsimp only
    rcases (Double.read? (Text.trim raw.toList)).bind Double.finite? with _ | x
    · exact .error rfl
    · exact .ok rfl

/-- Twins state the same condition. -/
theorem readCondition (h : Twin options options' f n m) (tag : String) :
    SameButTag f (Stencil.readCondition n tag) (Stencil.readCondition m (f tag)) := by
  rw [Stencil.readCondition, Stencil.readCondition]
  simp only [h.operand?, h.hasAttribute]
  exact (h.requiredAttribute tag "test").map fun test test' heq => by rw [heq]

theorem readCounter (h : Twin options options' f n m) (tag : String) :
    SameButTag f (Stencil.readCounter n tag) (Stencil.readCounter m (f tag)) := by
  rw [Stencil.readCounter, Stencil.readCounter, h.attribute?]
  rcases Host.attribute? n "index" with _ | name
  · exact .ok rfl
  · refine (h.numberAttribute tag "index-start" _).bind ?_
    rintro start _ rfl
    refine (h.numberAttribute tag "index-step" _).bind ?_
    rintro step _ rfl
    exact .ok rfl

/-- Twins state the same loop. -/
theorem readLoop (h : Twin options options' f n m) (tag : String) :
    SameButTag f (Stencil.readLoop n tag) (Stencil.readLoop m (f tag)) := by
  rw [Stencil.readLoop, Stencil.readLoop]
  simp only [h.attribute?, h.hasAttribute]
  refine (h.requiredAttribute tag "in").bind ?_
  rintro iterable _ rfl
  refine (h.requiredAttribute tag "as").bind ?_
  rintro valueName _ rfl
  refine (h.readCounter tag).bind ?_
  rintro counter? _ rfl
  exact .ok rfl

theorem dynamicAttributes (h : Twin options options' f n m) (placeholder : Placeholder) :
    Stencil.dynamicAttributes placeholder m = Stencil.dynamicAttributes placeholder n := by
  simp only [Stencil.dynamicAttributes, h.attributeNames, h.attribute?]

/-- **Twins that are elements have the same entry**, if their children do. -/
theorem ofElement (h : Twin options options' f n m) (hrole : options.role n = .element)
    (placeholder : Placeholder) (children : List (Entry N)) :
    Entry.ofElement placeholder m children = Entry.ofElement placeholder n children := by
  rw [Entry.ofElement, Entry.ofElement, bareSkeleton, bareSkeleton, h.dynamicAttributes,
    h.shell hrole]

end Host.Twin

/-! ## Parts that are compiled to the same -/

namespace Source

/-- Parts of templates that are compiled to the same entries. -/
def SameEntries (placeholder : Placeholder) (items items' : List (Source N)) : Prop :=
  compileAll placeholder items' = compileAll placeholder items

/-- Companions that are compiled to the same branches and the same last body. -/
structure SameCompanions (placeholder : Placeholder) (c c' : Companions (Source N)) : Prop where
  elseIfs : compileElseIfs placeholder c'.elseIfs = compileElseIfs placeholder c.elseIfs
  otherwise : compileOption placeholder c'.otherwise? = compileOption placeholder c.otherwise?

/-- Cases and defaults that are compiled to the same. -/
structure SameCases (placeholder : Placeholder)
    (c c' : List (Branch Operand (Source N)) × Option (List (Source N))) : Prop where
  cases : compileCases placeholder c'.1 = compileCases placeholder c.1
  otherwise : compileOption placeholder c'.2 = compileOption placeholder c.2

/-! ## Twins are read alike -/

variable {options options' : Options} {f : String → String}

/-- Options under which templates are read alike but for the tags: the same placeholders, and no new name
for texts. -/
structure Renaming (options options' : Options) (f : String → String) : Prop where
  placeholder : options'.placeholder = options.placeholder
  text : f "#text" = "#text"

/-- Companions and items of siblings that are compiled to the same. -/
structure SameSiblings (placeholder : Placeholder)
    (r r' : Companions (Source N) × List (Source N)) : Prop where
  companions : SameCompanions placeholder r.1 r'.1
  items : SameEntries placeholder r.2 r'.2

/-- Twins are in place together, or neither is. -/
theorem checkPairing_twins (pairing expected : Pairing) (tag : String) (partner : Partner) :
    SameButTag f (checkPairing pairing expected tag partner)
      (checkPairing pairing expected (f tag) partner) := by
  rw [checkPairing, checkPairing]
  split
  · exact .ok rfl
  · exact .error rfl

theorem SameEntries.cons {placeholder : Placeholder} {item item' : Source N}
    {items items' : List (Source N)} (h : compile placeholder item' = compile placeholder item)
    (hitems : SameEntries placeholder items items') :
    SameEntries placeholder (item :: items) (item' :: items') := by
  rw [SameEntries, compileAll, compileAll, h, hitems]

mutual

/-- What opens a body reads it as its twin does. -/
theorem readBody_twins (renames : Renaming options options' f) :
    ∀ {t t' : Tree N}, Tree.Related options (Host.Twin options options' f) t t' →
      (options.role t.node).opens = true →
      (readBody options t).Related (Renamed f) (SameEntries options.placeholder) (readBody options' t')
  | _, _, .mk top children, hopens => by
      rw [readBody, readBody]
      exact (readSiblings_twins renames .closed (children hopens)).map fun _ _ h => h.items

/-- A switch reads its cases as its twin does. -/
theorem readSwitch_twins (renames : Renaming options options' f) :
    ∀ {t t' : Tree N}, Tree.Related options (Host.Twin options options' f) t t' →
      (options.role t.node).opens = true →
      (readSwitch options t).Related (Renamed f) (SameCases options.placeholder)
        (readSwitch options' t')
  | _, _, .mk top children, hopens => by
      rw [readSwitch, readSwitch]
      exact readCases_twins renames false (children hopens)

/-- **Siblings that are twins are read alike.** -/
theorem readSiblings_twins (renames : Renaming options options' f)
    (pairing : Pairing) :
    ∀ {ts ts' : List (Tree N)}, Tree.AllRelated options (Host.Twin options options' f) ts ts' →
      (readSiblings options pairing ts).Related (Renamed f) (SameSiblings options.placeholder)
        (readSiblings options' pairing ts')
  | _, _, .nil => by
      rw [readSiblings, readSiblings]
      exact .ok ⟨⟨rfl, rfl⟩, rfl⟩
  | t :: _, _ :: _, .cons head tail => by
      have top := head.node
      rw [readSiblings, readSiblings, top.role]
      rcases role : options.role t.node with content | _ | ⟨tag, _ | keyword⟩
      · refine (readSiblings_twins renames _ tail).bind ?_
        rintro ⟨companions, items⟩ ⟨companions', items'⟩ ⟨hcompanions, hitems⟩
        exact .ok ⟨hcompanions, .cons (by rw [top.text role]) hitems⟩
      · refine (readBody_twins renames head (role ▸ rfl)).bind fun inside inside' hinside => ?_
        refine (readSiblings_twins renames _ tail).bind ?_
        rintro ⟨companions, items⟩ ⟨companions', items'⟩ ⟨hcompanions, hitems⟩
        refine .ok ⟨hcompanions, .cons ?_ hitems⟩
        rw [compile, compile, hinside, top.ofElement role]
      · exact .error rfl
      · rcases keyword with _ | _ | _ | _ | _ | _ | _ | _ | _ | _
        case conditional =>
          refine (top.readCondition tag).bind ?_
          rintro condition _ rfl
          refine (readBody_twins renames head (role ▸ rfl)).bind fun inside inside' hinside => ?_
          refine (readSiblings_twins renames _ tail).bind ?_
          rintro ⟨own, items⟩ ⟨own', items'⟩ ⟨hown, hitems⟩
          refine .ok ⟨⟨rfl, rfl⟩, .cons ?_ hitems⟩
          rw [compile, compile, compileFlow, compileFlow, hinside, hown.elseIfs, hown.otherwise]
        case elseIf =>
          refine (top.readCondition tag).bind ?_
          rintro condition _ rfl
          refine (readBody_twins renames head (role ▸ rfl)).bind fun inside inside' hinside => ?_
          refine (checkPairing_twins ..).bind fun _ _ _ => ?_
          refine (readSiblings_twins renames _ tail).bind ?_
          rintro ⟨companions, items⟩ ⟨companions', items'⟩ ⟨hcompanions, hitems⟩
          refine .ok ⟨⟨?_, hcompanions.otherwise⟩, hitems⟩
          rw [Companions.cons, Companions.cons, compileElseIfs, compileElseIfs, hinside,
            hcompanions.elseIfs]
        case otherwise =>
          refine (readBody_twins renames head (role ▸ rfl)).bind fun inside inside' hinside => ?_
          refine (checkPairing_twins ..).bind fun _ _ _ => ?_
          refine (readSiblings_twins renames _ tail).bind ?_
          rintro ⟨_, items⟩ ⟨_, items'⟩ ⟨_, hitems⟩
          refine .ok ⟨⟨rfl, ?_⟩, hitems⟩
          rw [Companions.otherwise, Companions.otherwise, compileOption, compileOption, hinside]
        case loop =>
          refine (top.readLoop tag).bind ?_
          rintro loop _ rfl
          refine (readBody_twins renames head (role ▸ rfl)).bind fun inside inside' hinside => ?_
          refine (readSiblings_twins renames _ tail).bind ?_
          rintro ⟨own, items⟩ ⟨own', items'⟩ ⟨hown, hitems⟩
          refine .ok ⟨⟨rfl, rfl⟩, .cons ?_ hitems⟩
          rw [compile, compile, compileFlow, compileFlow, hinside, hown.otherwise]
        case loopElse =>
          refine (readBody_twins renames head (role ▸ rfl)).bind fun inside inside' hinside => ?_
          refine (checkPairing_twins ..).bind fun _ _ _ => ?_
          refine (readSiblings_twins renames _ tail).bind ?_
          rintro ⟨_, items⟩ ⟨_, items'⟩ ⟨_, hitems⟩
          refine .ok ⟨⟨rfl, ?_⟩, hitems⟩
          rw [Companions.otherwise, Companions.otherwise, compileOption, compileOption, hinside]
        case binding =>
          refine (readBody_twins renames head (role ▸ rfl)).bind fun inside inside' hinside => ?_
          refine (readSiblings_twins renames _ tail).bind ?_
          rintro ⟨companions, items⟩ ⟨companions', items'⟩ ⟨hcompanions, hitems⟩
          refine .ok ⟨hcompanions, .cons ?_ hitems⟩
          rw [compile, compile, compileFlow, compileFlow, hinside, top.readBindings]
        case switch =>
          refine (top.requiredAttribute tag "value").bind ?_
          rintro subject _ rfl
          refine (readSwitch_twins renames head (role ▸ rfl)).bind ?_
          rintro ⟨cases, otherwise?⟩ ⟨cases', otherwise'?⟩ hcases
          refine (readSiblings_twins renames _ tail).bind ?_
          rintro ⟨companions, items⟩ ⟨companions', items'⟩ ⟨hcompanions, hitems⟩
          refine .ok ⟨hcompanions, .cons ?_ hitems⟩
          rw [compile, compile, compileFlow, compileFlow, hcases.cases, hcases.otherwise]
        case case => exact .error rfl
        case caseDefault => exact .error rfl
        case comment => exact readSiblings_twins renames _ tail

/-- **Children of a switch that are twins are read alike.** -/
theorem readCases_twins (renames : Renaming options options' f)
    (hasDefault : Bool) :
    ∀ {ts ts' : List (Tree N)}, Tree.AllRelated options (Host.Twin options options' f) ts ts' →
      (readCases options hasDefault ts).Related (Renamed f) (SameCases options.placeholder)
        (readCases options' hasDefault ts')
  | _, _, .nil => by
      rw [readCases, readCases]
      exact .ok ⟨rfl, rfl⟩
  | t :: _, _ :: _, .cons head tail => by
      have top := head.node
      have hrest := fun hasDefault => readCases_twins renames hasDefault tail
      rw [readCases, readCases, top.role]
      rcases role : options.role t.node with content | _ | ⟨tag, _ | keyword⟩
      · dsimp only [Role.rename]
        split
        · exact hrest hasDefault
        · exact .error (congrArg (TemplateError.unexpectedContent · _) renames.text.symm)
      · exact .error (congrArg (TemplateError.unexpectedContent · _) (top.plainTag role))
      · exact .error rfl
      · rcases keyword with _ | _ | _ | _ | _ | _ | _ | _ | _ | _
        case case =>
          dsimp only [Role.rename]
          rw [top.operand?]
          rcases operand? t.node "value" with _ | operand
          · exact .error rfl
          · refine (readBody_twins renames head (role ▸ rfl)).bind fun inside inside' hinside => ?_
            refine (hrest hasDefault).bind ?_
            rintro ⟨cases, otherwise?⟩ ⟨cases', otherwise'?⟩ ⟨hcases, hotherwise⟩
            refine .ok ⟨?_, hotherwise⟩
            rw [compileCases, compileCases, hinside, hcases]
        case caseDefault =>
          rcases hasDefault with _ | _
          · refine (readBody_twins renames head (role ▸ rfl)).bind fun inside inside' hinside => ?_
            refine (hrest true).bind ?_
            rintro ⟨cases, _⟩ ⟨cases', _⟩ ⟨hcases, _⟩
            refine .ok ⟨hcases, ?_⟩
            rw [compileOption, compileOption, hinside]
          · exact .error rfl
        case comment => exact hrest hasDefault
        all_goals exact .error rfl

end

end Source

/-- **Templates that are read alike are compiled to the same**, or refused with the same error but for its
tag. -/
theorem Template.compile_sameButTag {options options' : Options} {f : String → String}
    (renames : Source.Renaming options options' f) {nodes nodes' : List N}
    (h : (Source.readSiblings options .closed (nodes.map Host.tree)).Related (Renamed f)
      (Source.SameSiblings options.placeholder)
      (Source.readSiblings options' .closed (nodes'.map Host.tree))) :
    SameButTag f (compile options nodes) (compile options' nodes') := by
  rw [compile, compile, renames.placeholder]
  refine (h.map fun _ _ hread => hread.items).map fun items items' hitems => ?_
  exact congrArg Template.mk hitems

end Stencil
