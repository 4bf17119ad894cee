import Mathlib.Data.List.Basic
import Stencil.Proofs.Direct.Repeated

/-!
# Proofs/Direct/Plain — rendering by hand

For ordinary nodes the walk needs no operation of a host (`Painter.plain`): a text becomes a text, and
an element keeps its tag and the attributes without a placeholder, followed by those with one.  On sound
nodes this is what compiling and rendering comes to (`Template.items_render_eq_plain`).
-/

namespace Stencil

/-- **How texts and elements come out by hand.**  An element whose attributes or children come to an
error comes to that error, attributes first. -/
def Painter.plain (placeholder : Placeholder) : Painter Node where
  text scope _ content :=
    .given (scope.fill placeholder content) fun filled => .single (.text filled)
  element scope node inside :=
    let still := node.attributes.filter fun entry => !placeholder.occursIn entry.2
    let changing := node.attributes.filter fun entry => placeholder.occursIn entry.2
    .given (changing.mapM fun entry => (scope.fill placeholder entry.2).map (entry.1, ·)) fun filled =>
      inside.wrap fun children => .mk node.label (still ++ filled) children

namespace Node

variable (placeholder : Placeholder) {n : Node}

/-! ## The attributes of a sound node -/

/-- Of distinct attributes those with a placeholder are filled in. -/
theorem changes_of_mem (h : n.Sound) {entry : String × String} (hentry : entry ∈ n.attributes) :
    n.changes placeholder entry.1 = placeholder.occursIn entry.2 := by
  rw [← Assoc.firsts_of_nodup h.nodup_names] at hentry
  exact changes_of_mem_firsts placeholder n hentry

theorem unchanging_eq (h : n.Sound) :
    n.unchanging placeholder = n.attributes.filter fun entry => !placeholder.occursIn entry.2 :=
  List.filter_congr fun _ hentry => congrArg _ (changes_of_mem placeholder h hentry)

theorem changing_eq (h : n.Sound) :
    n.changing placeholder = n.attributes.filter fun entry => placeholder.occursIn entry.2 := by
  rw [changing, Assoc.firsts_of_nodup h.nodup_names]
  exact List.filter_congr fun _ hentry => changes_of_mem placeholder h hentry

/-! ## Texts and elements -/

/-- The values that are filled in have the names of the attributes with a placeholder. -/
theorem names_values {scope : Scope} {values : Assoc String} (h : n.Sound)
    (hvalues : Filling.values scope (dynamicAttributes placeholder n) = .ok values) :
    Assoc.names values = Assoc.names (n.attributes.filter fun entry => placeholder.occursIn entry.2) := by
  rw [← changing_eq placeholder h, changing, Assoc.firsts_of_nodup h.nodup_names]
  exact ((names_of_values hvalues).trans (names_dynamicAttributes placeholder n)).trans List.filter_map

/-- An element that is filled in repeats no attribute. -/
theorem nodup_names_filled {scope : Scope} {values : Assoc String} (h : n.Sound)
    (hvalues : Filling.values scope (dynamicAttributes placeholder n) = .ok values) :
    (Assoc.names ((n.attributes.filter fun entry => !placeholder.occursIn entry.2) ++
      values)).Nodup := by
  rw [Assoc.names, List.map_append]
  change (_ ++ Assoc.names values).Nodup
  rw [names_values placeholder h hvalues]
  exact Assoc.nodup_names_split _ h.nodup_names

/-- **An element that is filled in** has the attributes without a placeholder, and then the others. -/
theorem setAll_bareSkeleton {scope : Scope} {values : Assoc String} (h : n.Sound)
    (htext : n.text? = none)
    (hvalues : Filling.values scope (dynamicAttributes placeholder n) = .ok values) :
    Filling.setAll (bareSkeleton placeholder n) values =
      .mk n.label ((n.attributes.filter fun entry => !placeholder.occursIn entry.2) ++ values) [] := by
  have hdistinct : (Assoc.names values).Nodup := by
    rw [names_values placeholder h hvalues]
    exact Assoc.nodup_names_filter _ h.nodup_names
  rw [setAll_bareSkeleton_eq placeholder htext hvalues, unchanging_eq placeholder h,
    Assoc.firsts_of_nodup hdistinct]

/-- **By hand a sound element comes out as through its host.** -/
theorem plain_element (scope : Scope) (h : n.Sound) (htext : n.text? = none) (inside : Output Node) :
    (Painter.host placeholder).element scope n inside =
      (Painter.plain placeholder).element scope n inside := by
  rw [host_element_eq_byName placeholder scope htext]
  change Output.given _ _ = Output.given _ _
  rw [filled, changing_eq placeholder h, unchanging_eq placeholder h]

/-- **By hand a sound text comes out as through its host.** -/
theorem plain_text (scope : Scope) (h : n.Sound) {content : String} (htext : n.text? = some content) :
    (Painter.host placeholder).text scope n content =
      (Painter.plain placeholder).text scope n content := by
  change ite _ _ _ = Output.given _ _
  rw [Interpolation.isDynamic_ofText, Interpolation.render_ofText]
  split
  · rfl
  · next hstill =>
    rw [Interpolation.fill_of_not_occursIn scope (Bool.eq_false_iff.2 hstill), h.eq_text htext]
    rfl

end Node

/-! ## The walk by hand -/

/-- Along sound nodes the walk by hand comes to what the walk through the host comes to. -/
theorem Direct.plain_simulation (options : Options) :
    Simulation options (Painter.host options.placeholder) (Painter.plain options.placeholder)
      (fun n n' : Node => n' = n ∧ n.Sound) (fun _ => True) Eq :=
  .same
    (fun _ _ scope hsound hrole =>
      Node.plain_text _ scope hsound (Options.text?_of_role_text hrole))
    (fun _ scope inside hsound hrole =>
      Node.plain_element _ scope hsound (Options.text?_of_role_element hrole) inside)

/-- **Compiling and rendering sound nodes is rendering them by hand**, item by item and with the error
that ends them. -/
theorem Template.items_render_eq_plain {options : Options} {nodes : List Node}
    {template : Template Node} (hsound : ∀ n ∈ nodes, n.Sound)
    (h : Template.compile options nodes = .ok template) (scope : Scope) :
    Step.items (template.render scope).steps =
      (Direct.render options (Painter.plain options.placeholder) scope nodes).items := by
  have hrelated : Tree.AllRelated options (fun n n' : Node => n' = n ∧ n.Sound)
      (nodes.map Host.tree) (nodes.map Host.tree) :=
    Tree.allRelated_map fun n hn =>
      Node.Sound.related (f := id) (fun m _ => Node.tree_eq m) (fun m hm => ⟨rfl, hm⟩) (hsound n hn)
  rw [Template.items_render h scope, Direct.render, Direct.render,
    (Direct.plain_simulation options).siblings scope hrelated]

/-- An element with a placeholder in front of its other attribute comes out with that attribute last,
and the white space between a directive and its companion comes behind what they choose. -/
theorem Template.items_render_eq_plain_page :
    let page : List Node :=
      [.element "p" [("id", "\x7b\x7bx\x7d\x7d"), ("class", "a")] [.text "Hi \x7b\x7bname\x7d\x7d"],
        .element "gb-if" [("test", "off")] [.text "yes"], .text " ",
        .element "gb-else" [] [.element "b" [] [.text "no"]], .text "\x7b\x7bmissing\x7d\x7d"]
    let data : List (String × Value) := [("x", .string "1"), ("name", .string "Bo"), ("off", .null)]
    (∀ n ∈ page, n.Sound) ∧ ∃ template, Template.compile .default page = .ok template ∧
      Step.items (template.render (.ofRoot (.mapping data))).steps =
        [.ok (.element "p" [("class", "a"), ("id", "1")] [.text "Hi Bo"]),
          .ok (.element "b" [] [.text "no"]), .ok (.text " "),
          .error (.path (.undefined ⟨"missing"⟩ ["x", "name", "off"]))] := by
  intro page data
  have hsound : ∀ n ∈ page, n.Sound := by decide
  have hcompile : ∃ template, Template.compile Options.default page = .ok template := ⟨_, rfl⟩
  obtain ⟨template, hcompile⟩ := hcompile
  refine ⟨hsound, template, hcompile, ?_⟩
  exact (Template.items_render_eq_plain hsound hcompile _).trans (by decide +kernel)

end Stencil
