import Stencil.Proofs.Direct.Simulation
import Stencil.Proofs.Template.Checks

/-!
# Proofs/Template/Alike — nodes that say the same in two kinds of trees

Two nodes are alike if they are the same text, or elements with the same tag and the same value for each
attribute; the order in which attributes are listed is not compared, nor are names without a value.
Alike nodes have the same role and, read as directives, say the same, except that what a binding binds
and which attributes change may come in another order (`Host.Alike.mem_readBindings`,
`Host.Alike.mem_dynamicAttributes`).  So trees of alike nodes are accepted alike
(`Template.compile_eq_error_of_alike`).
-/

namespace Stencil

/-- A node that lists every attribute it has a value for. -/
def Host.Lists {N : Type} [Host N] (node : N) : Prop :=
  ∀ ⦃name value⦄, Host.attribute? node name = some value → name ∈ Host.attributeNames node

section Listed

variable {N : Type} [Host N] {node : N}

/-- A binding is an attribute with its value. -/
theorem mem_readBindings (h : Host.Lists node) {name : String} {path : Path} :
    (name, path) ∈ readBindings node ↔ Host.attribute? node name = some path.text := by
  rw [readBindings, List.mem_filterMap]
  constructor
  · rintro ⟨key, -, hkey⟩
    obtain ⟨value, hvalue, heq⟩ := Option.map_eq_some_iff.1 hkey
    obtain ⟨rfl, rfl⟩ := Prod.mk.inj heq
    exact hvalue
  · intro hvalue
    exact ⟨name, h hvalue, by rw [hvalue]; rfl⟩

/-- An attribute that is filled in is one whose value holds a placeholder. -/
theorem mem_dynamicAttributes (placeholder : Placeholder) (h : Host.Lists node) {name : String}
    {text : Interpolation} :
    (name, text) ∈ dynamicAttributes placeholder node ↔
      ∃ raw, Host.attribute? node name = some raw ∧ Interpolation.ofText placeholder raw = text ∧
        text.isDynamic = true := by
  rw [dynamicAttributes, List.mem_filterMap]
  constructor
  · rintro ⟨key, -, hkey⟩
    obtain ⟨raw, hraw, heq⟩ := Option.bind_eq_some_iff.1 hkey
    obtain ⟨hdynamic, heq⟩ := Option.ite_none_right_eq_some.1 heq
    obtain ⟨rfl, rfl⟩ := Prod.mk.inj (Option.some.inj heq)
    exact ⟨raw, hraw, rfl, hdynamic⟩
  · rintro ⟨raw, hraw, rfl, hdynamic⟩
    refine ⟨name, h hraw, ?_⟩
    rw [hraw]
    exact if_pos hdynamic

end Listed

variable {N M : Type} [Host N] [Host M]

/-- Nodes that are the same text, or elements with the same tag and attributes, in whatever order these
are listed. -/
structure Host.Alike (n : N) (m : M) : Prop where
  tag? : Host.tag? m = Host.tag? n
  text? : Host.text? m = Host.text? n
  attribute? (name : String) : Host.attribute? m name = Host.attribute? n name
  lists : Host.Lists n
  lists' : Host.Lists m

namespace Host.Alike

variable {options : Options} {n : N} {m : M}

theorem role_eq (h : Alike n m) : options.role m = options.role n := by
  simp only [Options.role, h.tag?, h.text?]

theorem requiredAttribute_eq (h : Alike n m) (tag name : String) :
    requiredAttribute m tag name = requiredAttribute n tag name := by
  simp only [requiredAttribute, h.attribute?]

theorem hasAttribute_eq (h : Alike n m) (name : String) :
    Host.hasAttribute m name = Host.hasAttribute n name := by
  simp only [Host.hasAttribute, h.attribute?]

theorem operand?_eq (h : Alike n m) (name : String) : operand? m name = operand? n name := by
  rw [operand?, operand?, h.attribute?, h.hasAttribute_eq]

theorem readCondition_eq (h : Alike n m) (tag : String) :
    readCondition m tag = readCondition n tag := by
  simp only [readCondition, h.requiredAttribute_eq, h.operand?_eq, h.hasAttribute_eq]

theorem readLoop_eq (h : Alike n m) (tag : String) : readLoop m tag = readLoop n tag := by
  simp only [readLoop, readCounter, numberAttribute, h.requiredAttribute_eq, h.hasAttribute_eq,
    h.attribute?]

/-- **Alike nodes bind the same names to the same paths.** -/
theorem mem_readBindings (h : Alike n m) (entry : String × Path) :
    entry ∈ readBindings n ↔ entry ∈ readBindings m := by
  obtain ⟨name, path⟩ := entry
  rw [Stencil.mem_readBindings h.lists, Stencil.mem_readBindings h.lists', h.attribute?]

/-- **In alike nodes the same attributes are filled in.** -/
theorem mem_dynamicAttributes (h : Alike n m) (placeholder : Placeholder)
    (entry : String × Interpolation) :
    entry ∈ dynamicAttributes placeholder n ↔ entry ∈ dynamicAttributes placeholder m := by
  obtain ⟨name, text⟩ := entry
  rw [Stencil.mem_dynamicAttributes placeholder h.lists,
    Stencil.mem_dynamicAttributes placeholder h.lists', h.attribute?]

/-! ## What is asked of alike nodes -/

theorem checkOwn_eq (h : Alike n m) : Source.checkOwn options m = Source.checkOwn options n := by
  simp only [Source.checkOwn, h.role_eq, h.readCondition_eq, h.readLoop_eq, h.requiredAttribute_eq]

theorem checkPlace_eq (h : Alike n m) (pairing : Pairing) :
    Source.checkPlace options pairing m = Source.checkPlace options pairing n := by
  simp only [Source.checkPlace, h.role_eq]

theorem checkCase_eq (h : Alike n m) (hasDefault : Bool) :
    Source.checkCase options hasDefault m = Source.checkCase options hasDefault n := by
  simp only [Source.checkCase, h.role_eq, h.requiredAttribute_eq, h.tag?]

end Host.Alike

/-! ## Trees of alike nodes -/

/-- What is part of the template below a node opens it. -/
theorem Role.opens_of_below? {role : Role} {place : Place} (h : role.below? = some place) :
    role.opens = true := by
  rcases role with content | _ | ⟨tag, _ | keyword⟩
  · exact nomatch h
  · rfl
  · rfl
  · rcases keyword with _ | _ | _ | _ | _ | _ | _ | _ | _ | _
    case comment => exact nomatch h
    all_goals rfl

namespace Tree

variable {options : Options}

mutual

theorem Related.checkBelow_eq : ∀ {t : Tree N} {t' : Tree M},
    Related options Host.Alike t t' → Source.checkBelow options t' = Source.checkBelow options t
  | .mk node _, _, .mk top children => by
      rw [Source.checkBelow, Source.checkBelow, node_mk, node_mk, top.role_eq]
      rcases hbelow : (options.role node).below? with _ | _ | _
      · rfl
      · exact (children (Role.opens_of_below? hbelow)).check_readSiblings_eq .closed
      · exact (children (Role.opens_of_below? hbelow)).check_readCases_eq false

/-- The first thing that is wrong is the same among siblings that are alike. -/
theorem AllRelated.check_readSiblings_eq : ∀ {ts : List (Tree N)} {ts' : List (Tree M)},
    AllRelated options Host.Alike ts ts' → ∀ pairing : Pairing,
      (Source.readSiblings options pairing ts').check = (Source.readSiblings options pairing ts).check
  | _, _, .nil, pairing => by
      rw [Source.check_readSiblings_nil, Source.check_readSiblings_nil]
  | _, _, .cons head tail, pairing => by
      have hnode := head.node
      simp only [Source.check_readSiblings_cons, hnode.checkOwn_eq, head.checkBelow_eq,
        hnode.checkPlace_eq, hnode.role_eq, tail.check_readSiblings_eq]

/-- The first thing that is wrong is the same among children of a switch that are alike. -/
theorem AllRelated.check_readCases_eq : ∀ {ts : List (Tree N)} {ts' : List (Tree M)},
    AllRelated options Host.Alike ts ts' → ∀ hasDefault : Bool,
      (Source.readCases options hasDefault ts').check =
        (Source.readCases options hasDefault ts).check
  | _, _, .nil, hasDefault => by
      rw [Source.check_readCases_nil, Source.check_readCases_nil]
  | _, _, .cons head tail, hasDefault => by
      have hnode := head.node
      simp only [Source.check_readCases_cons, hnode.checkCase_eq, head.checkBelow_eq, hnode.role_eq,
        tail.check_readCases_eq]

end

end Tree

/-- **Templates of alike nodes are accepted alike**, and refused with the same error. -/
theorem Template.compile_eq_error_of_alike {options : Options} {nodes : List N} {nodes' : List M}
    (h : Tree.AllRelated options Host.Alike (nodes.map Host.tree) (nodes'.map Host.tree))
    (e : TemplateError) :
    Template.compile options nodes' = .error e ↔ Template.compile options nodes = .error e := by
  have hcheck : (Template.compile options nodes').check = (Template.compile options nodes).check := by
    rw [Source.check_compile, Source.check_compile]
    exact h.check_readSiblings_eq .closed
  rw [← Except.check_eq_error, hcheck, Except.check_eq_error]

end Stencil
