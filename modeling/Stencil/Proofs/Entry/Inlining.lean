import Stencil.Node.Basic
import Stencil.Proofs.Entry.Along
import Stencil.Proofs.Entry.Settled
import Stencil.Proofs.Scope

/-!
# Proofs/Entry/Inlining — a binding is a shorthand

    with name = p: body, in a scope  ──▸  body with p in the place of name, in the same scope

A name that is bound to a path can as well be replaced by the path, wherever a path of the body begins with
the name (`Path.inline`).  Inside the binding the name stands for the value that the path leads to, and all
other names stand for what they do outside (`Scope.Abbreviates`); this lasts as long as nothing in the body
binds the name anew or the name that the path begins with.  So the body comes to the same
(`Entry.items_renderFlow_inline`).
-/

namespace Stencil

/-- The path `q` with `p` in the place of its first segment, if that is `name`. -/
def Path.inline (name : String) (p q : Path) : Path := if q.head = name then p.extend q else q

/-- The first of two scopes has a name for the value that a path leads to in the second, and any other name
stands for the same in both. -/
structure Scope.Abbreviates (name : String) (p : Path) (value : Value) (a b : Scope) : Prop where
  named : a.top? name = some value
  found : b.find? p = some value
  others : ∀ other, other ≠ name → a.top? other = b.top? other

namespace Scope.Abbreviates

variable {name : String} {p : Path} {value : Value} {a b scope : Scope}

/-- A binding abbreviates its path. -/
theorem of_derive (h : scope.find? p = some value) :
    Abbreviates name p value (scope.derive [(name, value)]) scope where
  named := by rw [top?_derive_singleton, if_pos rfl]
  found := h
  others other hother := by rw [top?_derive_singleton, if_neg (Ne.symm hother)]

/-- A path leads where it leads with the abbreviation spelled out. -/
theorem find?_inline (h : Abbreviates name p value a b) (q : Path) :
    a.find? q = b.find? (Path.inline name p q) := by
  rw [Path.inline]
  split
  · next hq => rw [find?_extend, h.found, find?, hq, h.named]
  · next hq => rw [find?, find?, h.others q.head hq]

/-- An abbreviation lasts behind bindings of other names. -/
theorem derive (h : Abbreviates name p value a b) {bindings : List (String × Value)}
    (hfree : ∀ binding ∈ bindings, binding.1 ≠ name ∧ binding.1 ≠ p.head) :
    Abbreviates name p value (a.derive bindings) (b.derive bindings) := by
  have hname : name ∉ bindings.map Prod.fst := fun hmem => by
    obtain ⟨binding, hbinding, rfl⟩ := List.mem_map.1 hmem
    exact (hfree binding hbinding).1 rfl
  have hhead : p.head ∉ bindings.map Prod.fst := fun hmem => by
    obtain ⟨binding, hbinding, hp⟩ := List.mem_map.1 hmem
    exact (hfree binding hbinding).2 hp
  exact ⟨(top?_derive_of_notMem hname a).trans h.named, (find?_derive_of_notMem hhead b).trans h.found,
    fun other hother => top?_derive_congr (h.others other hother) bindings⟩

/-- **An abbreviation lasts** in all entries that bind neither its name nor the first of its path. -/
theorem lasting {paths : Path → Prop} {names : String → Prop}
    (hfree : ∀ bound, names bound → bound ≠ name ∧ bound ≠ p.head) :
    Lasting (Path.inline name p) paths names (Abbreviates name p value) where
  agree h q _ := h.find?_inline q
  derive h hbindings := h.derive fun binding hmem => hfree binding.1 (hbindings binding hmem)

end Scope.Abbreviates

namespace Entry

variable {N : Type} [Host N]

/-- **A binding is a shorthand.**  If a path leads somewhere, then a body in which a name is bound to it and
the body with the path in the place of the name come to the same, item by item, up to the paths that errors
name and the names they list; provided that no directive inside the body binds the name or the one that
the path begins with.  (A name with a dot or white space around it begins no path, and so nothing is put in
its place.) -/
theorem items_renderFlow_inline (scope : Scope) {name : String} {p : Path} {value : Value}
    {body : List (Entry N)} (hp : scope.find? p = some value)
    (hfree : ∀ bound, Binds body bound → bound ≠ name ∧ bound ≠ p.head) :
    List.Forall₂ (Except.SameUpTo (RenderError.Along (Path.inline name p)))
      (Step.items (renderFlow scope (.binding [(name, p)] body)).steps)
      (Step.items (renderAll scope (redirectAll (Path.inline name p) body)).steps) := by
  have halike := alikeAlong body (Scope.Abbreviates.lasting hfree) (.of_derive hp)
  have hvalues : scope.values [(name, p)] = .ok [(name, value)] := by
    rw [Scope.values, List.mapM_cons, List.mapM_nil, Scope.lookup, hp]
    rfl
  rw [items_renderFlow, output_binding, hvalues, Output.given_ok, items_renderAll]
  exact halike.outputs.items

/-- The name is used by a loop and, inside it, by a condition and two texts; the path in its place keeps its
white space, and the error names the longer path. -/
theorem items_renderFlow_inline_user :
    let path : Path := ⟨" users . 0"⟩
    let body : List (Entry Node) :=
      [.flow (.loop ⟨⟨" user .tags"⟩, "tag", none, some ⟨"i", .ofInt 1, .ofInt 1⟩, false⟩
        [.flow (.conditional ⟨⟨"user.admin"⟩, none, [], false, false⟩
          [.leaf ⟨[("", ⟨"user.name"⟩), (":", ⟨"tag"⟩)], ""⟩, .leaf ⟨[("", ⟨"user.gone"⟩)], ""⟩] [] none)] none)]
    let user : Value :=
      .mapping [("name", .string "A"), ("tags", .sequence [.string "x"]), ("admin", .bool true)]
    let scope : Scope := .ofRoot (.mapping [("users", .sequence [user])])
    scope.find? path = some user ∧
      (∀ bound, Binds body bound → bound ≠ "user" ∧ bound ≠ path.head) ∧
      Step.items (renderAll scope (redirectAll (Path.inline "user" path) body)).steps =
        [.ok (.text "A:x"),
          .error (.path (.undefined ⟨" users . 0.gone"⟩ ["i", "tag", "users"]))] ∧
      List.Forall₂ (Except.SameUpTo (RenderError.Along (Path.inline "user" path)))
        (Step.items (renderFlow scope (.binding [("user", path)] body)).steps)
        (Step.items (renderAll scope (redirectAll (Path.inline "user" path) body)).steps) := by
  intro path body user scope
  have hpath : scope.find? path = some user := by
    simp only [scope, path, user]
    rfl
  have hfree : ∀ bound, Binds body bound → bound ≠ "user" ∧ bound ≠ path.head := by
    intro bound hbound
    have hcases : bound = "tag" ∨ bound = "i" := by
      simpa [body, ownNames, parts, Flow.ownNames, Flow.bodies, Loop.names] using hbound
    obtain rfl | rfl := hcases <;> exact ⟨by decide, by decide⟩
  exact ⟨hpath, hfree, by decide +kernel, items_renderFlow_inline scope hpath hfree⟩

end Entry

end Stencil
