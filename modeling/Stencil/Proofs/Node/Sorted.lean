import Stencil.Proofs.Direct.Alike
import Stencil.Proofs.Direct.Plain

/-!
# Proofs/Node/Sorted — templates do not depend on the order of attributes

A sound node and the same node with its attributes sorted are alike, also where a ghost is listed among
the sorted names.  So a template over sorted nodes is accepted if it is over ordinary ones, and comes to
the same nodes, sorted.
-/

namespace Stencil

namespace SortedNode

variable {fault : Fault} {n : Node}

theorem ofNodes_eq_map (nodes : List Node) :
    (ofNodes nodes : List (SortedNode fault)) = nodes.map ofNode := by
  induction nodes with
  | nil => rw [ofNodes]; rfl
  | cons n rest ih => rw [ofNodes, ih]; rfl

theorem ofNode_element (tag : String) (attributes : Assoc String) (children : List Node) :
    (ofNode (.mk (.element tag) attributes children) : SortedNode fault) =
      element tag (Dictionary.empty.insertAll attributes) (children.map ofNode) := by
  rw [ofNode, ofNodes_eq_map]

theorem trees_eq_map (nodes : List (SortedNode fault)) : trees nodes = nodes.map tree := by
  induction nodes with
  | nil => rw [trees]; rfl
  | cons n rest ih => rw [trees, ih]; rfl

/-- What is below a sorted node is what was below the node. -/
theorem tree_ofNode (h : n.Sound) :
    Host.tree (ofNode n : SortedNode fault) =
      .mk (ofNode n) (n.children.map fun c => Host.tree (ofNode c : SortedNode fault)) := by
  rcases h with content | ⟨tag, _, _⟩
  · rfl
  · change tree _ = _
    rw [ofNode_element, tree, trees_eq_map, List.map_map]
    rfl

/-! ## Sorted nodes are alike -/

/-- Sorting changes no attribute. -/
theorem find?_attributes_ofNode (h : n.Sound) (name value : String) :
    (ofNode n : SortedNode fault).attributes.find? name = some value ↔
      (name, value) ∈ n.attributes := by
  rcases h with content | ⟨tag, distinct, _⟩
  · exact ⟨fun h => (nomatch h), fun h => (nomatch h)⟩
  · rw [ofNode_element]
    exact Dictionary.find?_empty_insertAll (Assoc.single_of_nodup distinct) name value

/-- Sorted nodes list every attribute that they have. -/
theorem lists (m : SortedNode fault) : Host.Lists m := by
  intro name value hvalue
  have hname : name ∈ m.attributes.names := Assoc.mem_names (Assoc.mem_of_find? hvalue)
  rcases fault with _ | _ | _ | _ | ghost
  case ghost => exact List.mem_cons_of_mem ghost hname
  all_goals exact hname

/-- **A sound node and its sorted form are alike.** -/
theorem alike_ofNode (h : n.Sound) : Host.Alike n (ofNode n : SortedNode fault) where
  tag? := by rcases h with content | ⟨tag, _, _⟩ <;> rfl
  text? := by rcases h with content | ⟨tag, _, _⟩ <;> rfl
  attribute? name := by
    refine Option.ext fun value => (find?_attributes_ofNode h name value).trans ?_
    exact ⟨Assoc.find?_of_mem h.nodup_names, Assoc.mem_of_find?⟩
  lists := Node.lists n
  lists' := lists _

/-! ## Sorted elements are filled in alike -/

/-- Attributes are removed one after another from the dictionary. -/
theorem foldl_removeAttribute {α : Type} (removed : Assoc α) (tag : String)
    (attributes : Dictionary String) (children : List (SortedNode fault)) :
    removed.foldl (fun m entry => Host.removeAttribute m entry.1) (element tag attributes children) =
      element tag ((removed.map Prod.fst).foldl Dictionary.erase attributes) children := by
  induction removed generalizing attributes with
  | nil => rfl
  | cons entry rest ih => exact ih (attributes.erase entry.1)

theorem setAll_element (values : Assoc String) (tag : String) (attributes : Dictionary String)
    (children : List (SortedNode fault)) :
    Filling.setAll (element tag attributes children) values =
      element tag (attributes.insertAll values) children := by
  induction values generalizing attributes with
  | nil => rfl
  | cons entry rest ih => exact ih (attributes.insert entry.1 entry.2)

/-- A bare skeleton is without the attributes that are filled in later. -/
theorem bareSkeleton_element (placeholder : Placeholder) (tag : String)
    (attributes : Dictionary String) (children : List (SortedNode fault)) :
    bareSkeleton placeholder (element tag attributes children) =
      element tag (((dynamicAttributes placeholder (element tag attributes children)).map
        Prod.fst).foldl Dictionary.erase attributes) [] :=
  foldl_removeAttribute _ tag attributes []

/-- **Attributes that are removed, filled in and set again in another order** are in the end those of the
ordinary node, sorted. -/
theorem setAll_bareSkeleton_ofNode {placeholder : Placeholder} {scope : Scope}
    {values values' : Assoc String} (h : n.Sound) (htext : n.text? = none)
    (hvalues : Filling.values scope (dynamicAttributes placeholder n) = .ok values)
    (hvalues' : Filling.values scope
      (dynamicAttributes placeholder (ofNode n : SortedNode fault)) = .ok values')
    (hsame : ∀ entry, entry ∈ values ↔ entry ∈ values') :
    Filling.setAll (bareSkeleton placeholder (ofNode n : SortedNode fault)) values' =
      ofNode (Filling.setAll (bareSkeleton placeholder n) values) := by
  have hfilled := Node.setAll_bareSkeleton placeholder h htext hvalues
  have hnames := Node.names_values placeholder h hvalues
  have hnodup := Node.nodup_names_filled placeholder h hvalues
  have hnames' := Node.names_of_values hvalues'
  have hsingle' := single_values (lists _) hvalues'
  have hsameName : ∀ name, name ∈ Assoc.names values' ↔ name ∈ Assoc.names values := fun name => by
    simp only [Assoc.names, List.mem_map, hsame]
  rcases h with content | @⟨tag, attributes, children, distinct, below⟩
  · exact absurd htext (Option.some_ne_none content)
  rw [ofNode_element] at hnames'
  rw [Node.attributes] at hnames hnodup
  rw [hfilled, Node.label, Node.attributes, ofNode_element, ofNode_element, bareSkeleton_element,
    setAll_element, ← hnames']
  refine congrArg (element tag · []) (Dictionary.ext_find? fun name value => ?_)
  rw [Dictionary.find?_insertAll hsingle', Dictionary.find?_foldl_erase,
    Dictionary.find?_empty_insertAll (Assoc.single_of_nodup distinct),
    Dictionary.find?_empty_insertAll (Assoc.single_of_nodup hnodup), hsameName, ← hsame, hnames,
    List.mem_append, List.mem_filter]
  have hkept : (name, value) ∈ attributes →
      (name ∈ Assoc.names (attributes.filter fun entry => placeholder.occursIn entry.2) ↔
        placeholder.occursIn value = true) := Assoc.mem_names_filter distinct
  constructor
  · rintro (hvalue | ⟨hnot, -, hmem⟩)
    · exact .inr hvalue
    · exact .inl ⟨hmem, by simpa [hkept hmem] using hnot⟩
  · rintro (⟨hmem, hstill⟩ | hvalue)
    · have hnot : name ∉ Assoc.names (attributes.filter fun entry => placeholder.occursIn entry.2) := by
        simpa [hkept hmem] using hstill
      exact .inr ⟨hnot, hnot, hmem⟩
    · exact .inl hvalue

/-! ## Templates over sorted nodes -/

section Painted

variable [fault.Harmless] (placeholder : Placeholder) (scope : Scope)

/-- A text comes to the same text, or to an error on both sides. -/
theorem text_alike (h : n.Sound) {content : String} (htext : n.text? = some content) :
    Output.Alike (ofNode : Node → SortedNode fault)
      ((Painter.host placeholder).text scope n content)
      ((Painter.host placeholder).text scope (ofNode n) content) := by
  rw [h.eq_text htext]
  change Output.Alike _ (ite _ _ _) (ite _ _ _)
  split
  · exact .given_same _ fun filled => .single (Node.text filled)
  · exact .single (Node.text content)

/-- Sorting reaches children and attributes alike. -/
theorem withChildren_ofNode (m : Node) (nodes : List Node) (htext : m.text? = none) :
    Faithful.withChildren (ofNode m : SortedNode fault) (nodes.map ofNode) =
      ofNode (Faithful.withChildren m nodes) := by
  obtain ⟨content | tag, attributes, children⟩ := m
  · exact nomatch htext
  · rw [ofNode_element]
    exact (ofNode_element tag attributes nodes).symm

/-- **An element comes to the same element, sorted**, or to an error on both sides. -/
theorem element_alike (h : n.Sound) (htext : n.text? = none) {inside : Output Node}
    {inside' : Output (SortedNode fault)} (hinside : Output.Alike ofNode inside inside') :
    Output.Alike (ofNode : Node → SortedNode fault)
      ((Painter.host placeholder).element scope n inside)
      ((Painter.host placeholder).element scope (ofNode n) inside') := by
  have halike : Host.Alike n (ofNode n : SortedNode fault) := alike_ofNode h
  have hvalues := Except.Matches.mapM
    (f := fun entry : String × Interpolation => (entry.2.render scope).map (entry.1, ·))
    (halike.mem_dynamicAttributes placeholder)
  have hfilled := hvalues.imp fun values values' hl hr hsame =>
    setAll_bareSkeleton_ofNode h htext hl hr hsame
  refine .given hfilled fun values values' heq => hinside.wrap fun nodes => ?_
  rw [heq]
  refine withChildren_ofNode _ nodes ?_
  exact (Filling.text?_setAll _ values).trans ((Entry.text?_bareSkeleton n).trans htext)

end Painted

end SortedNode

/-- Along sound nodes and their sorted forms two walks are alike. -/
theorem Direct.sorted_simulation {fault : Fault} [fault.Harmless] (options : Options) :
    Simulation options (Painter.host options.placeholder) (Painter.host options.placeholder)
      (fun (n : Node) (m : SortedNode fault) => m = .ofNode n ∧ n.Sound) (fun _ => True)
      (Output.Alike .ofNode) := by
  refine alike_simulation ?_ ?_ ?_
  · rintro n _ ⟨rfl, hsound⟩
    exact SortedNode.alike_ofNode hsound
  · rintro n _ content scope ⟨rfl, hsound⟩ hrole
    exact SortedNode.text_alike _ scope hsound (Options.text?_of_role_text hrole)
  · rintro n _ inside inside' scope ⟨rfl, hsound⟩ hrole hinside
    exact SortedNode.element_alike _ scope hsound (Options.text?_of_role_element hrole) hinside

/-- **The order of attributes makes no difference.**  With its attributes sorted by name, and a ghost
among the names or not, a template is refused with the same error or comes, item by item, to the same
nodes with their attributes sorted; only which error ends it may differ. -/
theorem Template.compile_and_items_ofNode {fault : Fault} [fault.Harmless] {options : Options}
    {nodes : List Node} (hsound : ∀ n ∈ nodes, n.Sound) :
    (∀ e, Template.compile options (nodes.map .ofNode : List (SortedNode fault)) = .error e ↔
        Template.compile options nodes = .error e) ∧
      ∀ {template : Template Node} {template' : Template (SortedNode fault)},
        Template.compile options nodes = .ok template →
        Template.compile options (nodes.map .ofNode) = .ok template' → ∀ scope : Scope,
          List.Forall₂ (Except.Matches fun node node' => node' = .ofNode node)
            (Step.items (template.render scope).steps) (Step.items (template'.render scope).steps) := by
  have hrelated : ∀ {P : Node → SortedNode fault → Prop}, (∀ n : Node, n.Sound → P n (.ofNode n)) →
      Tree.AllRelated options P (nodes.map Host.tree)
        ((nodes.map .ofNode : List (SortedNode fault)).map Host.tree) := by
    intro P hP
    rw [List.map_map]
    exact Tree.allRelated_map fun n hn =>
      Node.Sound.related (fun m hm => SortedNode.tree_ofNode hm) hP (hsound n hn)
  refine ⟨Template.compile_eq_error_of_alike (hrelated fun n hn => SortedNode.alike_ofNode hn), ?_⟩
  intro template template' h h' scope
  rw [Template.items_render h scope, Template.items_render h' scope]
  refine Output.Alike.items ?_
  exact (Direct.sorted_simulation options).siblings scope (hrelated fun n hn => ⟨rfl, hn⟩)

/-- Attributes, names and missing values out of order, and a ghost that goes by a bound name: sorted, the first
element comes out with its attributes in order, and the other one of the two missing values is reported. -/
theorem Template.compile_and_items_ofNode_page :
    let page : List Node :=
      [.element "p" [("class", "\x7b\x7bx\x7d\x7d"), ("id", "a")] [.text "Hi"],
        .element "gb-with" [("n", "x"), ("m", "y")] [.text "\x7b\x7bm\x7d\x7d\x7b\x7bn\x7d\x7d"],
        .element "i" [("b", "\x7b\x7bno\x7d\x7d"), ("a", "\x7b\x7bnone\x7d\x7d")] []]
    let sorted : List (SortedNode (.ghost "n")) := page.map .ofNode
    let scope : Scope := .ofRoot (.mapping [("x", .string "1"), ("y", .string "2")])
    (∀ n ∈ page, n.Sound) ∧ ∃ template template', Template.compile .default page = .ok template ∧
      Template.compile .default sorted = .ok template' ∧
      Step.items (template.render scope).steps =
        [.ok (.element "p" [("id", "a"), ("class", "1")] [.text "Hi"]), .ok (.text "21"),
          .error (.path (.undefined ⟨"no"⟩ ["x", "y"]))] ∧
      (Step.items (template'.render scope).steps).map (Except.map SortedNode.toNode) =
        [.ok (.element "p" [("class", "1"), ("id", "a")] [.text "Hi"]), .ok (.text "21"),
          .error (.path (.undefined ⟨"none"⟩ ["x", "y"]))] ∧
      List.Forall₂ (Except.Matches fun node node' => node' = SortedNode.ofNode node)
        (Step.items (template.render scope).steps) (Step.items (template'.render scope).steps) := by
  intro page sorted scope
  have hsound : ∀ n ∈ page, n.Sound := by decide
  have hcompile : ∃ template, Template.compile .default page = .ok template := ⟨_, rfl⟩
  have hcompile' : ∃ template', Template.compile .default sorted = .ok template' := ⟨_, rfl⟩
  obtain ⟨template, hcompile⟩ := hcompile
  obtain ⟨template', hcompile'⟩ := hcompile'
  refine ⟨hsound, template, template', hcompile, hcompile', ?_, ?_, ?_⟩
  · rw [Template.items_render hcompile]
    decide +kernel
  · rw [Template.items_render hcompile']
    decide +kernel
  · exact (Template.compile_and_items_ofNode hsound).2 hcompile hcompile' _

end Stencil
