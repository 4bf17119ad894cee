import Stencil.Proofs.Assoc
import Stencil.Proofs.Interpolation
import Stencil.Proofs.Template.Comments
import Stencil.Proofs.Template.Within

/-!
# Proofs/Template/Collapse — what becomes static

    node ──compile──▸ static (node without its comments)    if nothing in it depends on data
      └────compile──▸ leaf | element                        otherwise

Whether a node becomes static is found out from below: a text by itself, an element from its attributes and
from what has become of its children, of which comments have left nothing and directives no slot.  Read off
the node, it is the question whether anything in it but its comments depends on data (`Node.Fixed`).
-/

namespace Stencil

/-! ## What depends on data -/

namespace Node

variable (options : Options)

mutual
/-- A node and all below it, but for comments and what is in them. -/
def reached : Node → List Node
  | mk (.text content) attributes children => [mk (.text content) attributes children]
  | mk (.element tag) attributes children =>
      mk (.element tag) attributes children :: allReached children
/-- Some nodes and all below them, but for comments and what is in them. -/
def allReached : List Node → List Node
  | [] => []
  | n :: rest => if (options.role n).isComment then allReached rest else reached n ++ allReached rest
end

/-- **A node that says the same whatever the data are**: it is no directive, and there is no placeholder in
it, be it a text or an element with attributes.  Of an attribute that is repeated, the first value counts. -/
structure Fixed (n : Node) : Prop where
  plain (tag : String) (keyword? : Option Keyword) : options.role n ≠ .directive tag keyword?
  text (content : String) (h : n.text? = some content) : options.placeholder.occursIn content = false
  attributes (tag : String) (h : n.tag? = some tag) (name value : String)
    (hvalue : n.attributes.find? name = some value) : options.placeholder.occursIn value = false

/-- Nodes in which, but for comments, nothing depends on data. -/
def AllFixed (nodes : List Node) : Prop := ∀ n ∈ allReached options nodes, n.Fixed options

variable {options}

theorem allFixed_cons_comment {n : Node} (h : (options.role n).isComment = true) (rest : List Node) :
    AllFixed options (n :: rest) ↔ AllFixed options rest := by
  rw [AllFixed, allReached, if_pos h, AllFixed]

theorem allFixed_cons {n : Node} (h : (options.role n).isComment = false) (rest : List Node) :
    AllFixed options (n :: rest) ↔
      (∀ m ∈ n.reached options, m.Fixed options) ∧ AllFixed options rest := by
  rw [AllFixed, allReached, h, if_neg Bool.false_ne_true, List.forall_mem_append, AllFixed]

theorem mem_reached (n : Node) : n ∈ n.reached options := by
  obtain ⟨content | tag, attributes, children⟩ := n <;> rw [reached] <;> exact .head _

/-- In a text nothing depends on data if it is fixed itself. -/
theorem reached_fixed_text {n : Node} {content : String} (h : n.text? = some content) :
    (∀ m ∈ n.reached options, m.Fixed options) ↔ n.Fixed options := by
  obtain ⟨content' | tag, attributes, children⟩ := n
  · rw [reached, List.forall_mem_singleton]
  · exact absurd h.symm (Option.some_ne_none content)

/-- In an element nothing depends on data if it is fixed itself and so is what is below it. -/
theorem reached_fixed_element {n : Node} (h : n.text? = none) :
    (∀ m ∈ n.reached options, m.Fixed options) ↔ n.Fixed options ∧ AllFixed options n.children := by
  obtain ⟨content | tag, attributes, children⟩ := n
  · exact absurd h (Option.some_ne_none content)
  · rw [reached, List.forall_mem_cons]
    rfl

/-- No attribute of an element is filled in if no first value of one has a placeholder. -/
theorem dynamicAttributes_eq_nil (placeholder : Placeholder) (n : Node) :
    dynamicAttributes placeholder n = [] ↔
      ∀ name value, n.attributes.find? name = some value → placeholder.occursIn value = false := by
  have hname : ∀ name, ((n.attributes.find? name).bind fun raw =>
      if (Interpolation.ofText placeholder raw).isDynamic then
        some (name, Interpolation.ofText placeholder raw) else none) = none ↔
      ∀ value, n.attributes.find? name = some value → placeholder.occursIn value = false := by
    intro name
    rcases n.attributes.find? name with _ | value
    · exact ⟨fun _ value h => absurd h.symm (Option.some_ne_none value), fun _ => rfl⟩
    · simp [Interpolation.isDynamic_ofText]
  change (Assoc.names n.attributes).filterMap _ = [] ↔ _
  rw [List.filterMap_eq_nil_iff]
  refine ⟨fun h name value hvalue => ?_, fun h name _ => (hname name).2 (h name)⟩
  exact (hname name).1 (h name (Assoc.mem_names (Assoc.mem_of_find? hvalue))) value hvalue

end Node

namespace Entry

/-- The entry of a text is static if there is no placeholder in it. -/
theorem isStatic_ofText {N : Type} [Host N] (placeholder : Placeholder) (node : N) (content : String) :
    (ofText placeholder node content).isStatic = true ↔ placeholder.occursIn content = false := by
  rw [← Interpolation.isDynamic_ofText]
  change (ite _ _ _ : Entry N).isStatic = true ↔ _
  split
  · next h => rw [h]; exact ⟨fun h => (Bool.false_ne_true h).elim, fun h => (Bool.false_ne_true h.symm).elim⟩
  · next h => exact ⟨fun _ => Bool.eq_false_iff.2 h, fun _ => rfl⟩

/-- The entry of an element is static if nothing in it is filled in and all its children are static. -/
theorem isStatic_ofElement {N : Type} [Host N] (placeholder : Placeholder) (node : N)
    (children : List (Entry N)) :
    (ofElement placeholder node children).isStatic = true ↔
      dynamicAttributes placeholder node = [] ∧ children.all isStatic = true := by
  rw [← List.isEmpty_iff]
  change (ite _ _ _ : Entry N).isStatic = true ↔ _
  split
  · next h => exact ⟨fun _ => h, fun _ => rfl⟩
  · next h => exact ⟨fun h => (Bool.false_ne_true h).elim, fun h' => (h h').elim⟩

/-- An element without anything dynamic in it, and with nodes for children, becomes static with them. -/
theorem ofElement_static {placeholder : Placeholder} {n : Node} (h : n.text? = none)
    (hattributes : dynamicAttributes placeholder n = []) (children : List Node) :
    ofElement placeholder n (children.map static) = .static (.mk n.label n.attributes children) := by
  have hall : (children.map static).all isStatic = true := by
    rw [List.all_map]
    exact List.all_eq_true.2 fun _ _ => rfl
  have hslots : (children.map static).filterMap slot? = children := by
    rw [List.filterMap_map]
    exact List.filterMap_some
  have hskeleton : (children.map static).foldl attach (bareSkeleton placeholder n) =
      Faithful.withChildren (bareSkeleton placeholder n) children := by
    rw [foldl_attach_bareSkeleton h, hslots]
  change (ite _ _ _ : Entry Node) = _
  rw [if_pos ⟨List.isEmpty_iff.2 hattributes, hall⟩, hskeleton, bareSkeleton, hattributes]
  rfl

end Entry

/-! ## Nodes that are fixed -/

namespace Node

variable {options : Options}

/-- What is neither a directive nor an element is a text, and the other way round. -/
theorem role_cases {n : Node} (h : ∀ tag keyword?, options.role n ≠ .directive tag keyword?) :
    (∃ content, options.role n = .text content ∧ n.text? = some content) ∨
      options.role n = .element ∧ n.text? = none := by
  rcases role : options.role n with content | _ | ⟨tag, keyword?⟩
  · exact .inl ⟨content, rfl, Options.text?_of_role_text role⟩
  · exact .inr ⟨rfl, Options.text?_of_role_element role⟩
  · exact absurd role (h tag keyword?)

theorem withoutComments_text {n : Node} {content : String} (h : n.text? = some content) :
    n.withoutComments options = n := by
  obtain ⟨content' | tag, attributes, children⟩ := n
  · rw [withoutComments]
  · exact absurd h.symm (Option.some_ne_none content)

theorem withoutComments_element {n : Node} (h : n.text? = none) :
    n.withoutComments options = mk n.label n.attributes (allWithoutComments options n.children) := by
  obtain ⟨content | tag, attributes, children⟩ := n
  · exact absurd h (Option.some_ne_none content)
  · rw [withoutComments]
    rfl

theorem tag?_isSome {n : Node} (h : n.text? = none) : ∃ tag, n.tag? = some tag := by
  obtain ⟨content | tag, attributes, children⟩ := n
  · exact absurd h (Option.some_ne_none content)
  · exact ⟨tag, rfl⟩

theorem Fixed.of_text {n : Node} {content : String} (role : options.role n = .text content)
    (h : options.placeholder.occursIn content = false) : n.Fixed options where
  plain _ _ hrole := Role.noConfusion (role.symm.trans hrole)
  text content' htext := by
    obtain rfl := Option.some.inj ((Options.text?_of_role_text role).symm.trans htext)
    exact h
  attributes tag htag := by
    obtain ⟨content' | tag', attributes, children⟩ := n
    · exact absurd htag.symm (Option.some_ne_none tag)
    · exact absurd (Options.text?_of_role_text role).symm (Option.some_ne_none content)

theorem Fixed.of_element {n : Node} (role : options.role n = .element)
    (h : dynamicAttributes options.placeholder n = []) : n.Fixed options where
  plain _ _ hrole := Role.noConfusion (role.symm.trans hrole)
  text content htext :=
    absurd (htext.symm.trans (Options.text?_of_role_element role)) (Option.some_ne_none content)
  attributes _ _ := (dynamicAttributes_eq_nil _ n).1 h

/-- The entry of a fixed text. -/
theorem Fixed.ofText {n : Node} (hn : n.Fixed options) {content : String} (h : n.text? = some content) :
    Entry.ofText options.placeholder n content = .static (n.withoutComments options) := by
  have hdynamic := Interpolation.isDynamic_ofText options.placeholder content
  rw [hn.text content h] at hdynamic
  rw [withoutComments_text h]
  change (ite _ _ _ : Entry Node) = _
  rw [if_neg (by rw [hdynamic]; exact Bool.false_ne_true)]
  rfl

/-- The entry of a fixed element whose children become static. -/
theorem Fixed.ofElement {n : Node} (hn : n.Fixed options) (h : n.text? = none) :
    Entry.ofElement options.placeholder n ((allWithoutComments options n.children).map .static) =
      .static (n.withoutComments options) := by
  obtain ⟨tag, htag⟩ := tag?_isSome h
  rw [Entry.ofElement_static h ((dynamicAttributes_eq_nil _ n).2 (hn.attributes tag htag)),
    withoutComments_element h]

/-! ## What is read -/

open Source (readBody readSiblings compile compileAll SiblingsRead siblingsRead_of_eq_ok)

mutual

theorem readBody_of_allFixed : ∀ n : Node, AllFixed options n.children →
    ∃ items, readBody options n.tree = .ok items ∧
      compileAll options.placeholder items = (allWithoutComments options n.children).map .static
  | mk label attributes children, h => by
      obtain ⟨items, hread, hcompile⟩ := readSiblings_of_allFixed children h .closed
      refine ⟨items, ?_, hcompile⟩
      rw [tree, readBody, hread]
      rfl

/-- **Where nothing depends on data, nodes are read, and become static**, each without its comments. -/
theorem readSiblings_of_allFixed : ∀ nodes : List Node, AllFixed options nodes → ∀ pairing,
    ∃ items, readSiblings options pairing (trees nodes) = .ok (.none, items) ∧
      compileAll options.placeholder items = (allWithoutComments options nodes).map .static
  | [], _, pairing => by
      refine ⟨[], ?_, ?_⟩
      · rw [trees, readSiblings]
      · rw [compileAll, allWithoutComments]
        rfl
  | n :: rest, h, pairing => by
      rw [trees, allWithoutComments]
      split
      · next hcomment =>
        rw [Source.readSiblings_comment (by rwa [node_tree])]
        exact readSiblings_of_allFixed rest ((allFixed_cons_comment hcomment rest).1 h) pairing
      · next hcomment =>
        obtain ⟨hreached, hrest⟩ := (allFixed_cons (Bool.eq_false_iff.2 hcomment) rest).1 h
        obtain ⟨content, role, htext⟩ | ⟨role, htext⟩ := role_cases (hreached n (mem_reached n)).plain
        · have hn := (reached_fixed_text htext).1 hreached
          obtain ⟨items, hread, hcompile⟩ := readSiblings_of_allFixed rest hrest
            (if Text.blank content then pairing else .closed)
          refine ⟨.text n content :: items, ?_, ?_⟩
          · have hwhole : readSiblings options pairing (n.tree :: trees rest) = _ :=
              (SiblingsRead.text (by rwa [node_tree]) (siblingsRead_of_eq_ok hread)).eq_ok
            rwa [node_tree] at hwhole
          · rw [compileAll, compile, hcompile, hn.ofText htext, List.map_cons]
        · obtain ⟨hn, hchildren⟩ := (reached_fixed_element htext).1 hreached
          obtain ⟨inside, hbody, hinside⟩ := readBody_of_allFixed n hchildren
          obtain ⟨items, hread, hcompile⟩ := readSiblings_of_allFixed rest hrest .closed
          refine ⟨.element n inside :: items, ?_, ?_⟩
          · have hwhole : readSiblings options pairing (n.tree :: trees rest) = _ :=
              (SiblingsRead.element (by rwa [node_tree]) hbody (siblingsRead_of_eq_ok hread)).eq_ok
            rwa [node_tree] at hwhole
          · rw [compileAll, compile, hcompile, hinside, hn.ofElement htext, List.map_cons]

end

/-! ## What has become static -/

mutual

theorem allFixed_of_readBody : ∀ (n : Node) {items : List (Source Node)},
    readBody options n.tree = .ok items →
      (compileAll options.placeholder items).all Entry.isStatic = true → AllFixed options n.children
  | mk label attributes children, items, h, hstatic => by
      rw [tree, readBody] at h
      obtain ⟨⟨companions, _⟩, hread, rfl⟩ := Except.ok_of_map h
      exact allFixed_of_readSiblings children hread hstatic

/-- **Where siblings have all become static, nothing depends on data.**  Before them no directive is open, and
none is behind any of them: it would be an entry that is not static. -/
theorem allFixed_of_readSiblings : ∀ (nodes : List Node) {companions : Companions (Source Node)}
    {items : List (Source Node)}, readSiblings options .closed (trees nodes) = .ok (companions, items) →
      (compileAll options.placeholder items).all Entry.isStatic = true → AllFixed options nodes
  | [], _, _, _, _ => by
      rw [AllFixed, allReached]
      exact List.forall_mem_nil _
  | n :: rest, companions, items, h, hstatic => by
      rw [trees] at h
      rcases hcomment : (options.role n).isComment with _ | _
      · rw [allFixed_cons hcomment]
        cases siblingsRead_of_eq_ok h with
        | text role behind =>
          rw [compileAll, compile, List.all_cons, Bool.and_eq_true, Entry.isStatic_ofText] at hstatic
          rw [node_tree] at role
          rw [ite_self] at behind
          have htext := Options.text?_of_role_text role
          refine ⟨(reached_fixed_text htext).2 ?_, allFixed_of_readSiblings rest behind.eq_ok hstatic.2⟩
          exact .of_text role hstatic.1
        | element role body behind =>
          rw [compileAll, compile, List.all_cons, Bool.and_eq_true, Entry.isStatic_ofElement,
            node_tree] at hstatic
          rw [node_tree] at role
          have htext := Options.text?_of_role_element role
          have hchildren := allFixed_of_readBody n body hstatic.1.2
          refine ⟨(reached_fixed_element htext).2 ⟨?_, hchildren⟩,
            allFixed_of_readSiblings rest behind.eq_ok hstatic.2⟩
          exact .of_element role hstatic.1.1
        | comment role behind =>
          rw [node_tree] at role
          rw [role] at hcomment
          exact Bool.noConfusion hcomment
        -- a directive leaves an entry behind that is not static
        | conditional | loop | binding | switch =>
          rw [compileAll, compile, List.all_cons] at hstatic
          exact absurd hstatic Bool.false_ne_true
      · rw [Source.readSiblings_comment (by rwa [node_tree])] at h
        exact (allFixed_cons_comment hcomment rest).2 (allFixed_of_readSiblings rest h hstatic)

end

end Node

/-! ## Elements that have not collapsed -/

/-- An element that has not collapsed has something dynamic in it. -/
theorem Template.dynamic_of_within {N : Type} [Host N] {options : Options} {nodes : List N}
    {template : Template N} (h : Template.compile options nodes = .ok template) {skeleton : N}
    {attributes : List (String × Interpolation)} {children : List (Entry N)}
    (hwithin : (Entry.element skeleton attributes children).Within template.entries) :
    ¬ (attributes = [] ∧ ∀ e ∈ children, e.isStatic = true) := by
  obtain ⟨node, inside, -, hmade⟩ := made_of_within h hwithin
  change (ite _ _ _ : Entry N) = _ at hmade
  split at hmade
  · cases hmade
  · next hdynamic =>
    obtain ⟨-, rfl, rfl⟩ := Entry.element.inj hmade
    exact fun hstatic => hdynamic ⟨List.isEmpty_iff.2 hstatic.1, List.all_eq_true.2 hstatic.2⟩

/-! ## The entry of a node -/

namespace Template

variable {options : Options} {node : Node}

theorem compile_eq_map (nodes : List Node) :
    compile options nodes = (Source.readSiblings options .closed (Node.trees nodes)).map fun read =>
      ⟨Source.compileAll options.placeholder read.2⟩ := by
  rw [compile, Source.read, Node.trees_eq_map]
  change Except.map _ (Except.map _ (Source.readSiblings options .closed (nodes.map Node.tree))) = _
  rcases Source.readSiblings options .closed (nodes.map Node.tree) with e | read <;> rfl

theorem isComment_of_plain (hplain : ∀ tag keyword?, options.role node ≠ .directive tag keyword?) :
    (options.role node).isComment = false := by
  rcases Node.role_cases hplain with ⟨content, role, -⟩ | ⟨role, -⟩ <;> rw [role] <;> rfl

theorem allFixed_singleton (hplain : ∀ tag keyword?, options.role node ≠ .directive tag keyword?) :
    Node.AllFixed options [node] ↔ ∀ n ∈ node.reached options, n.Fixed options := by
  rw [Node.allFixed_cons (isComment_of_plain hplain), Node.AllFixed, Node.allReached]
  exact and_iff_left (List.forall_mem_nil _)

/-- **A node in which nothing depends on data becomes static**, without its comments. -/
theorem compile_of_fixed (hplain : ∀ tag keyword?, options.role node ≠ .directive tag keyword?)
    (h : ∀ n ∈ node.reached options, n.Fixed options) :
    compile options [node] = .ok ⟨[.static (node.withoutComments options)]⟩ := by
  have hcomment := isComment_of_plain hplain
  obtain ⟨items, hread, hcompile⟩ :=
    Node.readSiblings_of_allFixed [node] ((allFixed_singleton hplain).2 h) .closed
  rw [Node.allWithoutComments, hcomment, if_neg Bool.false_ne_true, Node.allWithoutComments] at hcompile
  rw [compile_eq_map, hread]
  exact congrArg (fun entries => Except.ok (Template.mk entries)) hcompile

/-- A node that is no directive is compiled to one entry. -/
theorem entries_of_plain (hplain : ∀ tag keyword?, options.role node ≠ .directive tag keyword?)
    {template : Template Node} (h : compile options [node] = .ok template) :
    ∃ entry, template.entries = [entry] := by
  rw [compile_eq_map, Node.trees, Node.trees] at h
  obtain ⟨⟨companions, items⟩, hread, rfl⟩ := Except.ok_of_map h
  have hnil : ∀ {pairing companions items}, Source.SiblingsRead options pairing ([] : List (Tree Node))
      companions items → items = [] := fun hread => by cases hread; rfl
  rw [← Node.node_tree node] at hplain
  cases Source.siblingsRead_of_eq_ok hread with
  | text _ behind | element _ _ behind =>
    obtain rfl := hnil behind
    dsimp only
    rw [Source.compileAll, Source.compileAll]
    exact ⟨_, rfl⟩
  | conditional role | loop role | binding role | switch role | comment role =>
    exact absurd role (hplain _ _)

/-- **A node becomes static only if nothing in it depends on data.** -/
theorem fixed_of_isStatic (hplain : ∀ tag keyword?, options.role node ≠ .directive tag keyword?)
    {template : Template Node} (h : compile options [node] = .ok template)
    (hstatic : template.entries.all Entry.isStatic = true) :
    ∀ n ∈ node.reached options, n.Fixed options := by
  rw [compile_eq_map] at h
  obtain ⟨⟨companions, items⟩, hread, rfl⟩ := Except.ok_of_map h
  exact (allFixed_singleton hplain).1 (Node.allFixed_of_readSiblings [node] hread hstatic)

/-- **Static collapse is exact.**  A node that is no directive is compiled to one entry, and this is static if
and only if nothing in the node but its comments depends on data: no directive, no text with a placeholder,
no element with one in an attribute.  What is kept is the node without its comments, and it is rendered to just
that.  So an element in a compiled template, wherever it lies, has an attribute to be filled in or an entry
that is not static. -/
theorem compile_collapse (options : Options) :
    (∀ node : Node, (∀ tag keyword?, options.role node ≠ .directive tag keyword?) →
      ((∀ n ∈ node.reached options, n.Fixed options) → ∃ template, compile options [node] = .ok template) ∧
      ∀ template, compile options [node] = .ok template → ∃ entry, template.entries = [entry] ∧
        (entry.isStatic = true ↔ ∀ n ∈ node.reached options, n.Fixed options) ∧
        ∀ stored, entry = .static stored → stored = node.withoutComments options ∧
          ∀ scope, Step.items (template.render scope).steps = [.ok stored]) ∧
    ∀ (nodes : List Node) (template : Template Node), compile options nodes = .ok template →
      ∀ skeleton attributes children,
        (Entry.element skeleton attributes children).Within template.entries →
          ¬ (attributes = [] ∧ ∀ e ∈ children, e.isStatic = true) := by
  refine ⟨fun node hplain => ⟨fun h => ⟨_, compile_of_fixed hplain h⟩, fun template h => ?_⟩,
    fun nodes template h skeleton attributes children => dynamic_of_within h⟩
  obtain ⟨entry, hentry⟩ := entries_of_plain hplain h
  have hfixed : entry.isStatic = true → ∀ n ∈ node.reached options, n.Fixed options := fun hstatic =>
    fixed_of_isStatic hplain h (by rw [hentry, List.all_cons, hstatic]; rfl)
  have hstored : (∀ n ∈ node.reached options, n.Fixed options) →
      entry = .static (node.withoutComments options) := fun hall => by
    obtain rfl := Except.ok.inj (h.symm.trans (compile_of_fixed hplain hall))
    exact (List.singleton_inj.1 hentry).symm
  refine ⟨entry, hentry, ⟨hfixed, fun hall => by rw [hstored hall]; rfl⟩, fun stored hstatic => ?_⟩
  have hsame := hstored (hfixed (by rw [hstatic]; rfl))
  rw [hstatic] at hsame
  refine ⟨Entry.static.inj hsame, fun scope => ?_⟩
  rw [render, hentry, hstatic, Entry.items_renderAll, Entry.outputs_cons, Entry.output_static,
    Entry.outputs_nil, Output.append_nil]
  rfl

/-- An element with a comment in it that speaks of data, and with a repeated attribute of which only the
second value does, becomes static and is rendered to itself without the comment.  With the values the other
way round it does not. -/
theorem compile_collapse_card :
    let card (first second : String) : Node :=
      .element "p" [("class", first), ("class", second)]
        [.text "a", .element "gb-comment" [] [.text "\x7b\x7bb\x7d\x7d"]]
    let stored : Node := .element "p" [("class", "c"), ("class", "\x7b\x7bx\x7d\x7d")] [.text "a"]
    (∀ first second tag keyword?, Options.default.role (card first second) ≠ .directive tag keyword?) ∧
      compile .default [card "c" "\x7b\x7bx\x7d\x7d"] = .ok ⟨[.static stored]⟩ ∧
      (∀ n ∈ (card "c" "\x7b\x7bx\x7d\x7d").reached .default, n.Fixed .default) ∧
      (∀ scope, Step.items (render ⟨[.static stored]⟩ scope).steps = [.ok stored]) ∧
      (∃ skeleton attributes children,
        compile .default [card "\x7b\x7bx\x7d\x7d" "c"] = .ok ⟨[.element skeleton attributes children]⟩ ∧
          ¬ (attributes = [] ∧ ∀ e ∈ children, e.isStatic = true)) ∧
      ¬ ∀ n ∈ (card "\x7b\x7bx\x7d\x7d" "c").reached .default, n.Fixed .default := by
  intro card stored
  have hplain : ∀ first second tag keyword?,
      Options.default.role (card first second) ≠ .directive tag keyword? :=
    fun _ _ _ _ h => Role.noConfusion ((rfl : Options.default.role (card _ _) = .element).symm.trans h)
  have hkept : compile .default [card "c" "\x7b\x7bx\x7d\x7d"] = .ok ⟨[.static stored]⟩ := rfl
  obtain ⟨entry, hentry, hiff, hrender⟩ := ((compile_collapse .default).1 _ (hplain _ _)).2 _ hkept
  obtain rfl := List.singleton_inj.1 hentry
  have hfilled : ∃ skeleton attributes children, compile .default [card "\x7b\x7bx\x7d\x7d" "c"] =
      .ok ⟨[.element skeleton attributes children]⟩ := ⟨_, _, _, rfl⟩
  obtain ⟨skeleton, attributes, children, hfilled⟩ := hfilled
  have hdynamic := (compile_collapse .default).2 _ _ hfilled skeleton attributes children .here
  obtain ⟨entry, hentry, hiff', -⟩ := ((compile_collapse .default).1 _ (hplain _ _)).2 _ hfilled
  obtain rfl := List.singleton_inj.1 hentry
  exact ⟨hplain, hkept, hiff.1 rfl, (hrender stored rfl).2, ⟨_, _, _, hfilled, hdynamic⟩,
    fun hall => Bool.noConfusion (hiff'.2 hall)⟩

end Template

end Stencil
