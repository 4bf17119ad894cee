import Stencil.Proofs.Entry.Demand
import Stencil.Proofs.Template.Reading
import Stencil.Render.Template

/-!
# Proofs/Template/Concatenation — templates one behind the other

    xs ──compile──▸ a,   ys ──compile──▸ b     ⟹     xs ++ ys ──compile──▸ a ++ b

Whichever directive is open at the end of some siblings, siblings that can be read on their own are read
behind them as they are alone: a companion among them that could have reached back would have been
refused (`Source.SiblingsRead.reopen`).  So nothing that is read depends on where a list of siblings is
put together from two (`Source.SiblingsRead.append`), and the same holds of what is compiled and of what
is rendered.
-/

namespace Stencil

/-! ## Reading -/

namespace Source

variable {N : Type} [Host N] {options : Options}

/-- **Siblings that are read on their own are read alike behind any directive**, and none of them is a
companion of it. -/
theorem SiblingsRead.reopen {ts : List (Tree N)} {companions : Companions (Source N)}
    {items : List (Source N)} (h : SiblingsRead options .closed ts companions items)
    (pairing : Pairing) : SiblingsRead options pairing ts .none items := by
  generalize hclosed : Pairing.closed = start at h
  induction h generalizing pairing with
  | nil => exact .nil
  -- behind a blank text or a comment the directive is still open, so it is not fixed in the induction
  | text role behind ih => exact .text role (ih _ (by rw [← hclosed, ite_self]))
  | comment role behind ih => exact .comment role (ih pairing hclosed)
  | element role body behind ih => exact .element role body (ih .closed rfl)
  | conditional role reads body behind => exact .conditional role reads body behind
  | loop role reads body behind => exact .loop role reads body behind
  | binding role body behind ih => exact .binding role body (ih .closed rfl)
  | switch role reads body behind ih => exact .switch role reads body (ih .closed rfl)
  | elseIf => cases hclosed
  | otherwise => cases hclosed
  | loopElse => cases hclosed

/-- **Siblings are read one list behind the other**, if the second can be read on its own. -/
theorem SiblingsRead.append {pairing : Pairing} {ts us : List (Tree N)}
    {companions companions' : Companions (Source N)} {items items' : List (Source N)}
    (h : SiblingsRead options pairing ts companions items)
    (hbehind : SiblingsRead options .closed us companions' items') :
    SiblingsRead options pairing (ts ++ us) companions (items ++ items') := by
  induction h with
  | nil => exact hbehind.reopen _
  | text role _ ih => exact .text role ih
  | element role body _ ih => exact .element role body ih
  | conditional role reads body _ ih => exact .conditional role reads body ih
  | elseIf role reads body _ ih => exact .elseIf role reads body ih
  | otherwise role body _ ih => exact .otherwise role body ih
  | loop role reads body _ ih => exact .loop role reads body ih
  | loopElse role body _ ih => exact .loopElse role body ih
  | binding role body _ ih => exact .binding role body ih
  | switch role reads body _ ih => exact .switch role reads body ih
  | comment role _ ih => exact .comment role ih

theorem read_append {xs ys : List N} {items items' : List (Source N)}
    (hxs : read options xs = .ok items) (hys : read options ys = .ok items') :
    read options (xs ++ ys) = .ok (items ++ items') := by
  obtain ⟨⟨companions, _⟩, hfront, rfl⟩ := Except.ok_of_map hxs
  obtain ⟨⟨companions', _⟩, hback, rfl⟩ := Except.ok_of_map hys
  have hwhole := (siblingsRead_of_eq_ok hfront).append (siblingsRead_of_eq_ok hback)
  rw [read, List.map_append, hwhole.eq_ok]
  rfl

theorem compileAll_append (placeholder : Placeholder) (items items' : List (Source N)) :
    compileAll placeholder (items ++ items') =
      compileAll placeholder items ++ compileAll placeholder items' := by
  induction items with
  | nil => rw [compileAll]; rfl
  | cons item rest ih => rw [List.cons_append, compileAll, compileAll, ih]; rfl

end Source

/-! ## Rendering -/

/-- Items of which the last is an error. -/
def EndsInError {N : Type} (items : List (Except RenderError N)) : Prop :=
  ∃ before e, items = before ++ [.error e]

namespace Output

variable {N : Type}

theorem endsInError_items (a : Output N) : EndsInError a.items ↔ ∃ e, a.error? = some e := by
  obtain ⟨nodes, _ | e⟩ := a
  · refine ⟨fun ⟨before, e, h⟩ => ?_, fun ⟨e, h⟩ => absurd h (by simp)⟩
    have hmem : Except.error e ∈ items ⟨nodes, none⟩ := by rw [h]; simp
    simp [items] at hmem
  · exact ⟨fun _ => ⟨e, rfl⟩, fun _ => ⟨nodes.map .ok, e, rfl⟩⟩

/-- The items of an output behind another, unless that one ends with an error. -/
theorem items_append (a b : Output N) :
    (EndsInError a.items → (a ++ b).items = a.items) ∧
      (¬ EndsInError a.items → (a ++ b).items = a.items ++ b.items) := by
  rw [endsInError_items]
  obtain ⟨nodes, _ | e⟩ := a
  · refine ⟨fun ⟨e, h⟩ => absurd h (by simp), fun _ => ?_⟩
    change items ⟨nodes ++ b.nodes, b.error?⟩ = items ⟨nodes, none⟩ ++ b.items
    simp [items]
  · exact ⟨fun _ => rfl, fun h => absurd ⟨e, rfl⟩ h⟩

end Output

theorem Entry.outputs_append {N : Type} [Host N] (scope : Scope) (xs ys : List (Entry N)) :
    outputs scope (xs ++ ys) = outputs scope xs ++ outputs scope ys := by
  rw [outputs, renderEach_append, Rendering.output_append]
  rfl

/-! ## Both -/

/-- **Templates compose by concatenation.**  If two templates can be compiled, so can the one with the
nodes of both; it has the entries of the one and then of the other, and in every scope its items are
those of the first and, unless they end in an error, then those of the second. -/
theorem Template.compile_append {N : Type} [Host N] {options : Options} {xs ys : List N}
    {front back : Template N} (hfront : compile options xs = .ok front)
    (hback : compile options ys = .ok back) :
    ∃ whole, compile options (xs ++ ys) = .ok whole ∧
      whole.entries = front.entries ++ back.entries ∧
      ∀ scope,
        let items := Step.items (front.render scope).steps
        (EndsInError items → Step.items (whole.render scope).steps = items) ∧
          (¬ EndsInError items →
            Step.items (whole.render scope).steps =
              items ++ Step.items (back.render scope).steps) := by
  obtain ⟨xs', hxs, rfl⟩ := Except.ok_of_map hfront
  obtain ⟨ys', hys, rfl⟩ := Except.ok_of_map hback
  refine ⟨⟨Source.compileAll options.placeholder (xs' ++ ys')⟩, ?_, ?_, fun scope => ?_⟩
  · rw [compile, Source.read_append hxs hys]
    rfl
  · exact Source.compileAll_append ..
  · simp only [render, Entry.items_renderAll, Source.compileAll_append, Entry.outputs_append]
    exact Output.items_append _ _

/-- A directive that is open at the end of one list, and a list that begins with a blank text and a
comment before a directive with a companion of its own; where the condition of the one cannot be read,
nothing of the other is rendered. -/
theorem Template.compile_append_open :
    let xs : List Node := [.text "a", .element "gb-if" [("test", "x")] [.text "b"], .text " "]
    let ys : List Node :=
      [.text "\n", .element "gb-comment" [] [.element "gb-else" [] []],
        .element "gb-if" [("test", "y")] [.text "c"], .element "gb-else" [] [.text "d"]]
    ∃ front back whole, compile .default xs = .ok front ∧ compile .default ys = .ok back ∧
      compile .default (xs ++ ys) = .ok whole ∧
      whole.entries = front.entries ++ back.entries ∧
      Step.items (whole.render (.ofRoot (.mapping []))).steps =
        [.ok (.text "a"), .error (.path (.undefined ⟨"x"⟩ []))] := by
  intro xs ys
  refine ⟨_, _, _, rfl, rfl, rfl, ?_⟩
  obtain ⟨whole, hwhole, hentries, hitems⟩ := compile_append
    (rfl : compile Options.default xs = .ok _) (rfl : compile Options.default ys = .ok _)
  obtain rfl := Except.ok.inj hwhole
  exact ⟨hentries, (hitems (.ofRoot (.mapping []))).1 ⟨[.ok (.text "a")], _, rfl⟩⟩

end Stencil
