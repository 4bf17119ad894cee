import Stencil.Proofs.Assoc.Firsts
import Stencil.Proofs.Direct.Agreement
import Stencil.Proofs.Direct.Alike
import Stencil.Proofs.Direct.Simulation
import Stencil.Proofs.Interpolation
import Stencil.Proofs.Node.Sound

/-!
# Proofs/Direct/Repeated — elements with repeated attributes

    attributes ─┬─ first value of the name without a placeholder ──▸ as written, all of the name
                └─ first value of the name with one ──▸ behind them, once for each name, filled in

Compiling goes over the names of an element with their repetitions, and so does filling in.  Of a repeated
name both take the first value.  As often as the name comes up, an attribute of it is removed from the
skeleton, so none is left (`Node.bareSkeleton_eq`), and its value is set: the first time behind the others,
and then once more in its place (`Node.setAll_bareSkeleton_eq`).
-/

namespace Stencil

namespace Node

variable (placeholder : Placeholder) (n : Node)

/-- Every attribute of a node is listed. -/
theorem lists : Host.Lists n := fun _ _ hvalue => Assoc.mem_names (Assoc.mem_of_find? hvalue)

/-- Whether what is read under a name holds a placeholder. -/
def changes (name : String) : Bool := (n.attributes.find? name).any placeholder.occursIn

/-- The attributes that stay as they are. -/
def unchanging : Assoc String := n.attributes.filter fun entry => !n.changes placeholder entry.1

/-- The attributes that are filled in, each name once. -/
def changing : Assoc String :=
  (Assoc.firsts n.attributes).filter fun entry => n.changes placeholder entry.1

/-- The changing attributes with their placeholders replaced, or the first error. -/
def filled (scope : Scope) : Except PathError (Assoc String) :=
  (n.changing placeholder).mapM fun entry => (scope.fill placeholder entry.2).map (entry.1, ·)

/-- An attribute that comes first is filled in if it holds a placeholder. -/
theorem changes_of_mem_firsts {entry : String × String} (h : entry ∈ Assoc.firsts n.attributes) :
    n.changes placeholder entry.1 = placeholder.occursIn entry.2 := by
  rw [changes, ← Assoc.find?_firsts, Assoc.find?_of_mem (Assoc.nodup_names_firsts _) h]
  rfl

/-! ## What is compiled of the attributes -/

/-- The text with holes under a name, if it has any. -/
def holes? (name : String) : Option Interpolation :=
  (n.attributes.find? name).bind fun raw =>
    if (Interpolation.ofText placeholder raw).isDynamic then some (Interpolation.ofText placeholder raw)
    else none

theorem isSome_holes? (name : String) :
    (n.holes? placeholder name).isSome = n.changes placeholder name := by
  rw [holes?, changes]
  cases n.attributes.find? name with
  | none => rfl
  | some raw =>
    rw [Option.bind_some, Interpolation.isDynamic_ofText, Option.any_some]
    split
    · next h => exact h.symm
    · next h => exact (Bool.eq_false_iff.2 h).symm

/-- The attributes that are filled in are looked up name by name. -/
theorem dynamicAttributes_eq_collect :
    dynamicAttributes placeholder n =
      Assoc.collect (n.holes? placeholder) (Assoc.names n.attributes) := by
  refine List.filterMap_congr fun name _ => ?_
  change (n.attributes.find? name).bind _ = ((n.attributes.find? name).bind _).map _
  cases n.attributes.find? name with
  | none => rfl
  | some raw =>
    change ite _ _ _ = Option.map _ (ite _ _ _)
    split <;> rfl

theorem names_dynamicAttributes :
    Assoc.names (dynamicAttributes placeholder n) =
      (Assoc.names n.attributes).filter (n.changes placeholder) := by
  rw [dynamicAttributes_eq_collect, Assoc.names_collect]
  exact List.filter_congr fun name _ => n.isSome_holes? placeholder name

/-- **Each name once**, they are the changing attributes with their holes. -/
theorem firsts_dynamicAttributes :
    Assoc.firsts (dynamicAttributes placeholder n) =
      (n.changing placeholder).map fun entry => (entry.1, Interpolation.ofText placeholder entry.2) := by
  rw [dynamicAttributes_eq_collect, Assoc.firsts_collect, changing, ← List.filterMap_eq_map,
    List.filterMap_filter]
  refine List.filterMap_congr fun entry hentry => ?_
  rw [changes_of_mem_firsts placeholder n hentry, holes?, ← Assoc.find?_firsts,
    Assoc.find?_of_mem (Assoc.nodup_names_firsts _) hentry, Option.bind_some,
    Interpolation.isDynamic_ofText]
  split <;> rfl

/-- **What is filled in for the changing attributes** is what is filled in for all of them, each name
once, and so is the error. -/
theorem filled_eq (scope : Scope) :
    n.filled placeholder scope =
      (Filling.values scope (dynamicAttributes placeholder n)).map Assoc.firsts := by
  have hfirsts := Assoc.mapM_firsts (f := fun text : Interpolation => text.render scope)
    (single_dynamicAttributes placeholder n.lists)
  refine Eq.trans ?_ hfirsts
  rw [filled, firsts_dynamicAttributes, List.mapM_map]
  refine congrArg (List.mapM · _) (funext fun entry => ?_)
  rw [Function.comp_apply, Interpolation.render_ofText]

/-! ## What becomes of the attributes -/

theorem foldl_removeAttribute {α : Type} (removed : Assoc α) (label : Label) (attributes : Assoc String)
    (children : List Node) :
    removed.foldl (fun n entry => Node.removeAttribute n entry.1) (mk label attributes children) =
      mk label ((Assoc.names removed).foldl (fun l name => Assoc.erase name l) attributes) children := by
  induction removed generalizing attributes with
  | nil => rfl
  | cons entry rest ih => exact ih (Assoc.erase entry.1 attributes)

/-- **The skeleton of an element** has the attributes that stay as they are. -/
theorem bareSkeleton_eq : bareSkeleton placeholder n = .mk n.label (n.unchanging placeholder) [] := by
  change (dynamicAttributes placeholder n).foldl (fun n entry => Node.removeAttribute n entry.1)
    (mk n.label n.attributes []) = _
  rw [foldl_removeAttribute, names_dynamicAttributes, Assoc.foldl_erase_names, unchanging]

theorem setAll_mk {label : Label} {children : List Node} (attributes values : Assoc String)
    (h : (mk label attributes children).isText = false) :
    Filling.setAll (mk label attributes children) values =
      .mk label (values.foldl (fun l entry => Assoc.put entry.1 entry.2 l) attributes) children := by
  induction values generalizing attributes with
  | nil => rfl
  | cons entry rest ih =>
    rw [Filling.setAll_cons]
    change Filling.setAll (Node.setAttribute _ _ _) rest = _
    rw [setAttribute, if_neg (h ▸ Bool.false_ne_true)]
    exact ih (Assoc.put entry.1 entry.2 attributes) h

/-- Values have the names they were asked for. -/
theorem names_of_values {scope : Scope} {attributes : List (String × Interpolation)}
    {values : List (String × String)} (h : Filling.values scope attributes = .ok values) :
    Assoc.names values = attributes.map Prod.fst := by
  induction attributes generalizing values with
  | nil => exact Except.ok.inj h ▸ rfl
  | cons entry rest ih =>
    obtain ⟨name, text⟩ := entry
    rw [Filling.values_cons] at h
    obtain ⟨value, -, h⟩ := Except.ok_of_bind h
    obtain ⟨others, hothers, rfl⟩ := Except.ok_of_map h
    exact congrArg (name :: ·) (ih hothers)

variable {n}

/-- **An element that is filled in** has the attributes that stay, and then the others, each name once. -/
theorem setAll_bareSkeleton_eq {scope : Scope} {values : Assoc String} (htext : n.text? = none)
    (hvalues : Filling.values scope (dynamicAttributes placeholder n) = .ok values) :
    Filling.setAll (bareSkeleton placeholder n) values =
      .mk n.label (n.unchanging placeholder ++ Assoc.firsts values) [] := by
  have hbare : (mk n.label (n.unchanging placeholder) []).isText = false := congrArg Option.isSome htext
  have hnames : Assoc.names values = (Assoc.names n.attributes).filter (n.changes placeholder) :=
    (names_of_values hvalues).trans (names_dynamicAttributes placeholder n)
  have hnew : ∀ e ∈ values, e.1 ∉ Assoc.names (n.unchanging placeholder) := by
    intro e he hstays
    have hchanges : e.1 ∈ (Assoc.names n.attributes).filter (n.changes placeholder) :=
      hnames ▸ Assoc.mem_names he
    obtain ⟨entry, hentry, hname⟩ := List.mem_map.1 hstays
    have hnot := (List.mem_filter.1 hentry).2
    rw [hname, (List.mem_filter.1 hchanges).2] at hnot
    exact absurd hnot (by decide)
  rw [bareSkeleton_eq, setAll_mk _ _ hbare, Assoc.foldl_put_single (single_values n.lists hvalues) hnew]

/-- **What is read under a name is filled in**, whether it stays or changes. -/
theorem find?_filled {scope : Scope} {values : Assoc String}
    (h : n.filled placeholder scope = .ok values) (name : String) :
    (n.attributes.find? name).mapM (scope.fill placeholder) =
      .ok ((n.unchanging placeholder ++ values).find? name) := by
  have hfound : ((n.changing placeholder).find? name).mapM (scope.fill placeholder) =
      .ok (values.find? name) := Assoc.find?_mapM h
  rw [Assoc.find?_append]
  rcases hchanges : n.changes placeholder name with _ | _
  · have hstays : (n.unchanging placeholder).find? name = n.attributes.find? name :=
      Assoc.find?_filter (p := fun key => !n.changes placeholder key) (by simp [hchanges]) _
    rw [changing, Assoc.find?_filter_of_eq_false hchanges] at hfound
    rw [hstays, ← Except.ok.inj hfound, Option.or_none]
    rw [changes] at hchanges
    cases hraw : n.attributes.find? name with
    | none => rfl
    | some raw =>
      rw [hraw] at hchanges
      exact congrArg (Except.map some) (Interpolation.fill_of_not_occursIn scope hchanges)
  · have hgone : (n.unchanging placeholder).find? name = none :=
      Assoc.find?_filter_of_eq_false (p := fun key => !n.changes placeholder key) (by simp [hchanges])
    rw [changing, Assoc.find?_filter hchanges, Assoc.find?_firsts] at hfound
    rw [hgone, Option.none_or, hfound]

end Node

/-! ## The walk -/

/-- **How elements come out if names are repeated**: of a name that is filled in one attribute is left,
behind those that stay.  Texts come out as through their host. -/
def Painter.byName (placeholder : Placeholder) : Painter Node where
  text := (Painter.host placeholder).text
  element scope node inside :=
    .given (node.filled placeholder scope) fun values =>
      inside.wrap fun children => .mk node.label (node.unchanging placeholder ++ values) children

theorem Node.host_element_eq_byName (placeholder : Placeholder) {n : Node} (scope : Scope)
    (htext : n.text? = none) (inside : Output Node) :
    (Painter.host placeholder).element scope n inside =
      (Painter.byName placeholder).element scope n inside := by
  change Output.given _ _ = Output.given _ _
  rw [filled_eq]
  rcases hvalues : Filling.values scope (dynamicAttributes placeholder n) with e | values
  · rfl
  · rw [Output.given_ok, setAll_bareSkeleton_eq placeholder htext hvalues]
    rfl

/-- What an element comes to by hand, if it comes to a node. -/
theorem Painter.mem_items_element_byName {placeholder : Placeholder} {scope : Scope} {n out : Node}
    {inside : Output Node}
    (h : Except.ok out ∈ ((Painter.byName placeholder).element scope n inside).items) :
    ∃ values, n.filled placeholder scope = .ok values ∧
      out = .mk n.label (n.unchanging placeholder ++ values) inside.nodes := by
  change Except.ok out ∈ (Output.given (n.filled placeholder scope) _).items at h
  rcases hvalues : n.filled placeholder scope with e | values
  · rw [hvalues] at h
    exact absurd (List.mem_singleton.1 h) (by simp)
  · rw [hvalues, Output.given_ok] at h
    obtain ⟨nodes, _ | e⟩ := inside
    · exact ⟨values, rfl, Except.ok.inj (List.mem_singleton.1 h)⟩
    · exact absurd (List.mem_singleton.1 h) (by simp)

/-- **Attributes come out right, also under repeated names.**  A template comes to what the walk by name
comes to, for its elements at any depth.  If it is one element alone, the node it comes to has those of its
attributes whose name has a first value without a placeholder, as written, and behind them one attribute
for each other name, in the order in which these come first, with its first value filled in.  So under every
name one reads there what is read in the source, filled in. -/
theorem Template.items_render_repeated {options : Options} {nodes : List Node}
    {template : Template Node} (h : Template.compile options nodes = .ok template) (scope : Scope) :
    Step.items (template.render scope).steps =
      (Direct.render options (Painter.byName options.placeholder) scope nodes).items ∧
    ∀ node out, nodes = [node] → options.role node = .element →
      Except.ok out ∈ Step.items (template.render scope).steps →
        (∃ values, node.filled options.placeholder scope = .ok values ∧
          out.attributes = node.unchanging options.placeholder ++ values) ∧
        ∀ name, (Host.attribute? node name).mapM (scope.fill options.placeholder) =
          .ok (Host.attribute? out name) := by
  have hsame : Direct.Simulation options (Painter.host options.placeholder)
      (Painter.byName options.placeholder) (fun n n' : Node => n' = n ∧ True) (fun _ => True) Eq :=
    .same (fun _ _ _ _ _ => rfl) fun n scope inside _ hrole =>
      Node.host_element_eq_byName _ scope (Options.text?_of_role_element hrole) inside
  have hitems : Step.items (template.render scope).steps =
      (Direct.render options (Painter.byName options.placeholder) scope nodes).items := by
    rw [Template.items_render h scope, Direct.render, Direct.render,
      hsame.siblings scope (.refl (fun _ => ⟨rfl, trivial⟩) _)]
  refine ⟨hitems, ?_⟩
  rintro node out rfl hrole hout
  have helement : Direct.render options (Painter.byName options.placeholder) scope [node] =
      (Painter.byName options.placeholder).element scope node
        (Direct.body options (Painter.byName options.placeholder) scope (Host.tree node)) := by
    have hnode : (Host.tree node).node = node := node.node_tree
    rw [Direct.render, List.map_singleton, Direct.siblings, Direct.siblings, Output.append_nil, hnode, hrole]
  rw [hitems, helement] at hout
  obtain ⟨values, hvalues, rfl⟩ := Painter.mem_items_element_byName hout
  exact ⟨⟨values, hvalues, rfl⟩, Node.find?_filled _ hvalues⟩

/-- Two names that alternate, one of them with a placeholder in its first value and one without. -/
theorem Template.items_render_repeated_card :
    let card : Node := .element "p" [("id", "\x7b\x7bx\x7d\x7d"), ("class", "a"), ("id", "old"),
      ("class", "\x7b\x7bx\x7d\x7d"), ("lang", "\x7b\x7bx\x7d\x7d!"), ("id", "\x7b\x7bgone\x7d\x7d")] []
    let scope : Scope := .ofRoot (.mapping [("x", .string "7")])
    let out : Node := .element "p"
      [("class", "a"), ("class", "\x7b\x7bx\x7d\x7d"), ("id", "7"), ("lang", "7!")] []
    ∃ template, Template.compile .default [card] = .ok template ∧
      Options.default.role card = .element ∧
      Except.ok out ∈ Step.items (template.render scope).steps ∧
      (Host.attribute? card "id").mapM (scope.fill Options.default.placeholder) =
        .ok (Host.attribute? out "id") := by
  intro card scope out
  have hcompile : ∃ template, Template.compile Options.default [card] = .ok template := ⟨_, rfl⟩
  obtain ⟨template, hcompile⟩ := hcompile
  obtain ⟨hitems, hattributes⟩ := Template.items_render_repeated hcompile scope
  have hout : Except.ok out ∈ Step.items (template.render scope).steps := by
    rw [hitems]
    decide +kernel
  exact ⟨template, hcompile, rfl, hout, (hattributes card out rfl rfl hout).2 "id"⟩

end Stencil
