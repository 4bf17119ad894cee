import Stencil.Proofs.Entry.Along
import Stencil.Proofs.Scope

/-!
# Proofs/Entry/Influence — which data a rendering depends on

    names that paths begin with ──top?──▸ values ──▸ lookups ──▸ outputs

A path begins with a name, and only what that name stands for decides where the path leads.  Two scopes
in which the paths of some entries begin alike (`Scope.AgreeOn`) stay so inside loops and bindings, as
these bind the same names to the same values in both.  So the entries come to the same in both
(`Entry.steady`), but for the names that an undefined path lists.
-/

namespace Stencil

/-! ## Errors without the names they list -/

/-- Two errors of a path that differ at most in the names that were in scope. -/
inductive PathError.SameButNames : PathError → PathError → Prop
  | undefined (path : Path) (available available' : List String) :
      SameButNames (.undefined path available) (.undefined path available')
  | mismatch (path : Path) (expected : Shape) (found : Kind) :
      SameButNames (.mismatch path expected found) (.mismatch path expected found)

/-- Two errors of a rendering that differ at most in the names that were in scope. -/
inductive RenderError.SameButNames : RenderError → RenderError → Prop
  | path {e e' : PathError} (h : e.SameButNames e') : SameButNames (.path e) (.path e')
  | misaligned (tag? : Option String) (misfit : Misfit) :
      SameButNames (.misaligned tag? misfit) (.misaligned tag? misfit)

/-- An error of the same paths differs at most in these names. -/
theorem RenderError.Along.sameButNames {e e' : RenderError} (h : e.Along id e') : e.SameButNames e' := by
  obtain ⟨⟨p, available, available'⟩ | ⟨p, expected, found⟩⟩ | ⟨tag?, misfit⟩ := h
  · exact .path (.undefined p available available')
  · exact .path (.mismatch p expected found)
  · exact .misaligned tag? misfit

/-! ## Scopes in which paths begin alike -/

namespace Scope

/-- Two scopes in which some paths begin with names that stand for the same, if for anything. -/
def AgreeOn (paths : Path → Prop) (a b : Scope) : Prop := ∀ p, paths p → a.top? p.head = b.top? p.head

theorem AgreeOn.derive {paths : Path → Prop} {a b : Scope} (h : AgreeOn paths a b)
    (bindings : List (String × Value)) : AgreeOn paths (a.derive bindings) (b.derive bindings) :=
  fun p hp => top?_derive_congr (h p hp) bindings

end Scope

namespace Entry

variable {N : Type} [Host N]

/-! ## Entries -/

/-- Entries that come to the same in two scopes, on their own and in the slots of an element. -/
structure AlikeIn (a b : Scope) (entries : List (Entry N)) : Prop where
  outputs : (outputs a entries).SameUpTo RenderError.SameButNames (outputs b entries)
  fillSlots : ∀ filling, (fillSlots a entries filling).outcome.SameUpTo RenderError.SameButNames
    (fillSlots b entries filling).outcome

/-- A body that comes to the same in any two scopes in which its paths begin alike. -/
def Steady (body : List (Entry N)) : Prop :=
  ∀ a b, Scope.AgreeOn (Uses body) a b → AlikeIn a b body

/-- **Entries come to the same in any two scopes in which their paths begin alike.** -/
theorem steady : ∀ entries : List (Entry N), Steady entries := by
  intro entries a b h
  have hlasting : Scope.Lasting id (Uses entries) (Binds entries) (Scope.AgreeOn (Uses entries)) := by
    refine ⟨fun {a b} h p hp => ?_, fun h _ => h.derive _⟩
    rw [id, Scope.find?, Scope.find?, h p hp]
  have halike := alikeAlong entries hlasting h
  refine ⟨?_, fun filling => ?_⟩
  · have houtputs := halike.outputs.mono fun _ _ => RenderError.Along.sameButNames
    rwa [redirectAll_id] at houtputs
  · have hslots := (halike.fillSlots filling).mono fun _ _ => RenderError.Along.sameButNames
    rwa [redirectAll_id] at hslots

end Entry

/-- **Data that no path of a template begins with have no influence on it.**  If each name that a path
begins with stands for the same in two scopes, be it as a local or by way of the root, or in both for
nothing, then the template comes to the same in both, item by item; only the names that were in scope,
which the error of an undefined path lists, may differ. -/
theorem Template.items_render_of_agreeOn {N : Type} [Host N] (template : Template N)
    {scope scope' : Scope}
    (h : ∀ p, Entry.Uses template.entries p → scope.top? p.head = scope'.top? p.head) :
    List.Forall₂ (Except.SameUpTo RenderError.SameButNames)
      (Step.items (template.render scope).steps) (Step.items (template.render scope').steps) := by
  have halike := (Entry.steady template.entries scope scope' h).outputs
  rw [render, render, Entry.items_renderAll, Entry.items_renderAll]
  exact halike.items

/-- A name may stand for the same as a local and by way of the root: the loop comes to the same, and so
does the path that leads nowhere, though other names are in scope. -/
theorem Template.items_render_of_agreeOn_local :
    let template : Template Node :=
      ⟨[.flow (.loop ⟨⟨"xs"⟩, "x", none, none, false⟩ [.leaf ⟨[("", ⟨"x"⟩)], ","⟩] none),
        .leaf ⟨[("", ⟨" gone.y "⟩)], ""⟩]⟩
    let scope : Scope := .ofRoot (.mapping [("xs", .sequence [.string "1"]), ("id", .string "7")])
    let scope' : Scope := .withLocals (.mapping [("other", .null)]) [("xs", .sequence [.string "1"])]
    (∀ p, Entry.Uses template.entries p → scope.top? p.head = scope'.top? p.head) ∧
      Step.items (template.render scope).steps =
        [.ok (.text "1,"), .error (.path (.undefined ⟨" gone.y "⟩ ["xs", "id"]))] ∧
      List.Forall₂ (Except.SameUpTo RenderError.SameButNames)
        (Step.items (template.render scope).steps) (Step.items (template.render scope').steps) := by
  intro template scope scope'
  have hagree : ∀ p, Entry.Uses template.entries p → scope.top? p.head = scope'.top? p.head := by
    intro p hp
    have hcases : p = ⟨"xs"⟩ ∨ p = ⟨"x"⟩ ∨ p = ⟨" gone.y "⟩ := by
      simpa [template, Entry.ownPaths, Entry.parts, Flow.ownPaths, Flow.bodies,
        Interpolation.paths, or_assoc] using hp
    obtain rfl | rfl | rfl := hcases <;> rfl
  exact ⟨hagree, by decide +kernel, template.items_render_of_agreeOn hagree⟩

end Stencil
