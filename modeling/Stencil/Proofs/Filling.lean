import Stencil.Proofs.Faithful
import Stencil.Proofs.Output
import Stencil.Render.Filling

/-!
# Proofs/Filling — an element being filled as two lists

Over a faithful host a filling is a frame with two lists of children in it, those that are finished and
the slots that are left (`Filling.reached`).  Every operation on fillings is an equation about these
lists: a slot that is kept or replaced moves over to the finished ones, a node that is inserted is one
more of them, and nothing is lost.
-/

namespace Stencil

namespace Filling

variable {N : Type} [Host N]

/-! ## Attributes -/

/-- The values of attributes whose holes are filled. -/
def values (scope : Scope) (attributes : List (String × Interpolation)) :
    Except PathError (List (String × String)) :=
  attributes.mapM fun entry => (entry.2.render scope).map (entry.1, ·)

/-- The first attribute is filled in before the others. -/
theorem values_cons (scope : Scope) (name : String) (text : Interpolation)
    (rest : List (String × Interpolation)) :
    values scope ((name, text) :: rest) =
      (text.render scope).bind fun value => (values scope rest).map ((name, value) :: ·) := by
  rw [values, List.mapM_cons]
  rcases text.render scope with e | value
  · rfl
  · change Except.bind (values scope rest) (fun others => Except.ok ((name, value) :: others)) =
      (values scope rest).map _
    rcases values scope rest with e | others <;> rfl

/-- A node with attributes set one after another. -/
def setAll (target : N) (values : List (String × String)) : N :=
  values.foldl (fun n value => Host.setAttribute n value.1 value.2) target

@[simp] theorem setAll_cons (target : N) (value : String × String) (rest : List (String × String)) :
    setAll target (value :: rest) = setAll (Host.setAttribute target value.1 value.2) rest := rfl

/-- **Attributes are filled in by setting their values**; nothing is set if one of them cannot be
filled. -/
theorem outcome_attributes (scope : Scope) (attributes : List (String × Interpolation)) (target : N) :
    (Filling.attributes scope attributes target).outcome =
      ((values scope attributes).map (setAll target)).mapError .path := by
  induction attributes generalizing target with
  | nil => rfl
  | cons entry rest ih =>
    obtain ⟨name, text⟩ := entry
    rw [Filling.attributes, Traced.outcome_bind, Traced.outcome_ofPath, values_cons]
    rcases text.render scope with e | value
    · rfl
    · refine (ih (Host.setAttribute target name value)).trans ?_
      change _ = Except.mapError _ (Except.map _ (Except.map _ (values scope rest)))
      rcases values scope rest with e | others <;> rfl

variable [Faithful N]

open Faithful

/-- Attributes make no text of an element. -/
@[simp] theorem text?_setAll (target : N) (values : List (String × String)) :
    Host.text? (setAll target values) = Host.text? target := by
  induction values generalizing target with
  | nil => rfl
  | cons value rest ih => rw [setAll_cons, ih, text?_setAttribute]

/-- Attributes and children are set independently. -/
theorem setAll_withChildren (target : N) (cs : List N) (values : List (String × String)) :
    setAll (withChildren target cs) values = withChildren (setAll target values) cs := by
  induction values generalizing target with
  | nil => rfl
  | cons value rest ih => rw [setAll_cons, setAttribute_withChildren, ih, setAll_cons]

/-! ## Children -/

/-- A frame with children that are finished and slots that are left. -/
def reached (frame : N) (done slots : List N) : Filling N :=
  ⟨withChildren frame (done ++ slots), done.length⟩

variable {frame : N} (h : Host.text? frame = none) (done slots : List N) (slot node : N)

/-- A filling begins with every child as a slot. -/
theorem start_withChildren : start (withChildren frame slots) = reached frame [] slots := rfl

include h

theorem children_reached : Host.children (reached frame done slots).target = done ++ slots :=
  children_withChildren h _

/-- Finished children and slots are all that there is in the frame. -/
theorem childCount_reached :
    Host.childCount (reached frame done slots).target = done.length + slots.length := by
  rw [Host.childCount, children_reached h, List.length_append]

/-- The position is in front of the next slot. -/
theorem hasSlot_reached_cons : (reached frame done (slot :: slots)).hasSlot = true := by
  rw [hasSlot, childCount_reached h]
  simp [reached]

omit h in
/-- A slot that is kept is finished as it stands. -/
theorem keep_reached :
    (reached frame done (slot :: slots)).keep = reached frame (done ++ [slot]) slots := by
  rw [keep, reached, reached, List.append_assoc, List.length_append]
  rfl

/-- The child at the position is the next slot. -/
theorem replaceChild_reached :
    Host.replaceChild (reached frame done (slot :: slots)).target done.length node =
      withChildren frame ((done ++ [node]) ++ slots) := by
  rw [replaceChild_eq, children_reached h, reached, withChildren_withChildren,
    List.set_append_right _ _ (Nat.le_refl _), Nat.sub_self, List.set_cons_zero, List.append_assoc,
    List.singleton_append]

/-- A slot that is replaced is finished as the other node. -/
theorem replace_reached :
    (reached frame done (slot :: slots)).replace node = reached frame (done ++ [node]) slots := by
  refine (congrArg (fun n => (⟨n, done.length + 1⟩ : Filling N))
    (replaceChild_reached h done slots slot node)).trans ?_
  rw [reached, List.length_append]
  rfl

/-- A node that is inserted is finished, and the slots stay. -/
theorem insert_reached :
    (reached frame done slots).insert node = reached frame (done ++ [node]) slots := by
  have htext : Host.text? (reached frame done slots).target = none := by
    rw [reached, text?_withChildren, h]
  have hlength : (done ++ [node]).length = done.length + 1 := List.length_append
  rw [insert, insertChild_eq htext, children_reached h, reached, reached, withChildren_withChildren,
    List.take_left, List.drop_left, hlength, List.append_assoc, List.singleton_append]

/-- **Nodes that are inserted one after another are finished in this order.** -/
theorem foldl_insert_reached (nodes : List N) :
    nodes.foldl insert (reached frame done slots) = reached frame (done ++ nodes) slots := by
  induction nodes generalizing done with
  | nil => rw [List.foldl_nil, List.append_nil]
  | cons node rest ih =>
    rw [List.foldl_cons, insert_reached h, ih, List.append_assoc, List.singleton_append]

/-- The slot at the position, and the filling once it has become another node. -/
theorem focusChild?_reached :
    Host.focusChild? (reached frame done (slot :: slots)).target done.length =
      some (slot, Host.replaceChild (reached frame done (slot :: slots)).target done.length) := by
  rw [focusChild?_eq, children_reached h, List.getElem?_append_right (Nat.le_refl _), Nat.sub_self]
  rfl

/-- **A filling ends once no slot is left.** -/
theorem finish_reached : (reached frame done []).finish = .ok (withChildren frame done) := by
  have hend : (reached frame done []).position = done.length + ([] : List N).length := rfl
  rw [finish, childCount_reached h, if_pos hend, reached, List.append_nil]

end Filling

end Stencil
