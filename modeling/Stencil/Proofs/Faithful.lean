import Stencil.Node.Sorted

/-!
# Proofs/Faithful — hosts whose operations do what they say

A faithful host copies nodes as they are, and an element of it is a frame with a list of children in it:
`withChildren` exchanges the list, every operation on children is one on that list, and the operations
on attributes leave it alone.  Ordinary nodes are faithful, and so are sorted ones without a fault and
with a ghost among their attribute names.
-/

namespace Stencil

/-- A host whose operations do what they say. -/
class Faithful (N : Type) [Host N] where
  /-- The node with other children. -/
  withChildren : N → List N → N
  clone_eq (n : N) : Host.clone n = n
  text?_withChildren (n : N) (cs : List N) : Host.text? (withChildren n cs) = Host.text? n
  children_withChildren {n : N} (h : Host.text? n = none) (cs : List N) :
    Host.children (withChildren n cs) = cs
  withChildren_children (n : N) : withChildren n (Host.children n) = n
  withChildren_withChildren (n : N) (cs ds : List N) :
    withChildren (withChildren n cs) ds = withChildren n ds
  shell_eq (n : N) : Host.shell n = withChildren n []
  insertChild_eq {n : N} (h : Host.text? n = none) (position : Nat) (c : N) :
    Host.insertChild n position c =
      withChildren n ((Host.children n).take position ++ c :: (Host.children n).drop position)
  replaceChild_eq (n : N) (position : Nat) (c : N) :
    Host.replaceChild n position c = withChildren n ((Host.children n).set position c)
  focusChild?_eq (n : N) (position : Nat) :
    Host.focusChild? n position =
      (Host.children n)[position]?.map fun c => (c, Host.replaceChild n position)
  text?_setAttribute (n : N) (name value : String) :
    Host.text? (Host.setAttribute n name value) = Host.text? n
  setAttribute_withChildren (n : N) (cs : List N) (name value : String) :
    Host.setAttribute (withChildren n cs) name value =
      withChildren (Host.setAttribute n name value) cs
  text?_removeAttribute (n : N) (name : String) :
    Host.text? (Host.removeAttribute n name) = Host.text? n
  removeAttribute_withChildren (n : N) (cs : List N) (name : String) :
    Host.removeAttribute (withChildren n cs) name =
      withChildren (Host.removeAttribute n name) cs

namespace Faithful

variable {N : Type} [Host N] [Faithful N]

attribute [simp] clone_eq text?_withChildren withChildren_children withChildren_withChildren
  text?_setAttribute text?_removeAttribute

/-- Appending puts a child behind the others. -/
theorem append_eq {n : N} (h : Host.text? n = none) (c : N) :
    Host.append n c = withChildren n (Host.children n ++ [c]) := by
  rw [Host.append, insertChild_eq h, Host.childCount, List.take_length, List.drop_length]

end Faithful

/-! ## Which hosts are faithful -/

/-- Ordinary nodes are faithful. -/
instance : Faithful Node where
  withChildren n cs := .mk n.label n.attributes cs
  clone_eq _ := rfl
  text?_withChildren _ _ := rfl
  children_withChildren _ _ := rfl
  withChildren_children := fun (.mk _ _ _) => rfl
  withChildren_withChildren _ _ _ := rfl
  shell_eq _ := rfl
  insertChild_eq {n} h position c := by
    have hn : n.isText = false := congrArg Option.isSome h
    exact if_neg (by rw [hn]; exact Bool.false_ne_true)
  replaceChild_eq _ _ _ := rfl
  focusChild?_eq _ _ := rfl
  text?_setAttribute n name value := by
    change (Node.setAttribute n name value).text? = n.text?
    unfold Node.setAttribute
    split <;> rfl
  setAttribute_withChildren n cs name value := by
    change Node.setAttribute (.mk n.label n.attributes cs) name value =
      .mk (n.setAttribute name value).label (n.setAttribute name value).attributes cs
    by_cases h : n.isText = true
    · have h' : (Node.mk n.label n.attributes cs).isText = true := h
      rw [Node.setAttribute, if_pos h', Node.setAttribute, if_pos h]
    · have h' : ¬ (Node.mk n.label n.attributes cs).isText = true := h
      rw [Node.setAttribute, if_neg h', Node.setAttribute, if_neg h]
      rfl
  text?_removeAttribute _ _ := rfl
  removeAttribute_withChildren _ _ _ := rfl

/-- A fault that does not show in copies or in the reach of children. -/
class Fault.Harmless (fault : Fault) : Prop where
  out : match fault with
    | .sound | .ghost _ => True
    | _ => False

instance : Fault.Harmless .sound := ⟨trivial⟩

instance (name : String) : Fault.Harmless (.ghost name) := ⟨trivial⟩

/-- Sorted nodes are faithful if their fault is harmless. -/
instance {fault : Fault} [h : fault.Harmless] : Faithful (SortedNode fault) where
  withChildren n cs := n.mapChildren fun _ => cs
  clone_eq n := by cases fault <;> first | rfl | exact h.out.elim
  text?_withChildren n cs := by cases n <;> rfl
  children_withChildren {n} h cs := by
    cases n with
    | text content => cases h
    | element tag attributes children => rfl
  withChildren_children n := by cases n <;> rfl
  withChildren_withChildren n cs ds := by cases n <;> rfl
  shell_eq _ := rfl
  insertChild_eq {n} h position c := by
    cases n with
    | text content => cases h
    | element tag attributes children => rfl
  replaceChild_eq n position c := by cases n <;> rfl
  focusChild?_eq n position := by cases fault <;> first | rfl | exact h.out.elim
  text?_setAttribute n name value := by cases n <;> rfl
  setAttribute_withChildren n cs name value := by cases n <;> rfl
  text?_removeAttribute n name := by cases n <;> rfl
  removeAttribute_withChildren n cs name := by cases n <;> rfl

end Stencil
