import Stencil.Node.Sorted
import Stencil.Proofs.Entry.Interleaving

/-!
# Proofs/Entry/Counting — the children of an element are counted

    slots left   k      k      k-1    k-1    k-1  …  0
    entries         f      a'     g      h      …

A host can be trusted to count if what it does to a node changes the number of its children as it should;
nothing is asked of its copies (`Counted`).  While an element is filled in, an entry that is no directive uses
up one of the slots left behind the position and a directive none (`Entry.left_fillSlots`).  So an element
comes out only if its copy has a child for each entry that is no directive (`Entry.childCount_of_fillElement`),
as its skeleton has (`Entry.childCount_skeleton`).
-/

namespace Stencil

/-! ## Hosts that count -/

/-- A node of the same kind with as many children. -/
structure Host.SameSize {N : Type} [Host N] (n m : N) : Prop where
  text? : Host.text? m = Host.text? n
  childCount : Host.childCount m = Host.childCount n

/-- Changing a node again and again leaves it the same size if each change does. -/
theorem Host.SameSize.foldl {N α : Type} [Host N] {change : N → α → N}
    (h : ∀ n a, Host.SameSize n (change n a)) (l : List α) (n : N) : Host.SameSize n (l.foldl change n) := by
  induction l generalizing n with
  | nil => exact ⟨rfl, rfl⟩
  | cons a rest ih =>
    have hfirst := h n a
    have hrest := ih (change n a)
    exact ⟨hrest.text?.trans hfirst.text?, hrest.childCount.trans hfirst.childCount⟩

/-- A host that can be trusted with the number of children, except in copies. -/
class Counted (N : Type) [Host N] : Prop where
  text?_clone (n : N) : Host.text? (Host.clone n) = Host.text? n
  text?_shell (n : N) : Host.text? (Host.shell n) = Host.text? n
  childCount_shell (n : N) : Host.childCount (Host.shell n) = 0
  setAttribute (n : N) (name value : String) : Host.SameSize n (Host.setAttribute n name value)
  removeAttribute (n : N) (name : String) : Host.SameSize n (Host.removeAttribute n name)
  text?_insertChild (n : N) (position : Nat) (c : N) :
    Host.text? (Host.insertChild n position c) = Host.text? n
  childCount_insertChild {n : N} (h : Host.text? n = none) (position : Nat) (c : N) :
    Host.childCount (Host.insertChild n position c) = Host.childCount n + 1
  replaceChild (n : N) (position : Nat) (c : N) : Host.SameSize n (Host.replaceChild n position c)
  put {n slot : N} {position : Nat} {put : N → N} (h : Host.focusChild? n position = some (slot, put))
    (c : N) : Host.SameSize n (put c)

namespace SortedNode

variable {fault : Fault}

theorem sameSize_mapAttributes (f : Dictionary String → Dictionary String) (n : SortedNode fault) :
    Host.SameSize n (n.mapAttributes f) := by
  rcases n with content | ⟨tag, attributes, children⟩ <;> exact ⟨rfl, rfl⟩

theorem sameSize_set (n : SortedNode fault) (position : Nat) (c : SortedNode fault) :
    Host.SameSize n (n.mapChildren (·.set position c)) := by
  rcases n with content | ⟨tag, attributes, children⟩
  · exact ⟨rfl, rfl⟩
  · exact ⟨rfl, List.length_set⟩

/-- **Sorted nodes count**, whatever their fault. -/
instance : Counted (SortedNode fault) where
  text?_clone n := by
    rcases n with content | ⟨tag, attributes, children⟩ <;> cases fault <;> rfl
  text?_shell n := by rcases n with content | ⟨tag, attributes, children⟩ <;> rfl
  childCount_shell n := by rcases n with content | ⟨tag, attributes, children⟩ <;> rfl
  setAttribute n name value := n.sameSize_mapAttributes _
  removeAttribute n name := n.sameSize_mapAttributes _
  text?_insertChild n position c := by rcases n with content | ⟨tag, attributes, children⟩ <;> rfl
  childCount_insertChild {n} h position c := by
    rcases n with content | ⟨tag, attributes, children⟩
    · exact absurd h (Option.some_ne_none content)
    · change (children.take position ++ c :: children.drop position).length = children.length + 1
      rw [List.length_append, List.length_cons, List.length_take, List.length_drop]
      omega
  replaceChild n position c := n.sameSize_set position c
  put {n slot position put} h c := by
    have hput : put = fun child => n.mapChildren (·.set position child) := by
      cases fault with
      | frozen => exact absurd h.symm (Option.some_ne_none _)
      | _ =>
        obtain ⟨child, -, hchild⟩ := Option.map_eq_some_iff.1 h
        exact (Prod.mk.inj hchild).2.symm
    rw [hput]
    exact n.sameSize_set position c

end SortedNode

variable {N : Type} [Host N]

/-! ## Slots that are left -/

namespace Filling

/-- How many slots are left behind the position. -/
def left (f : Filling N) : Int := Host.childCount f.target - f.position

theorem left_start (target : N) : (start target).left = Host.childCount target := Int.sub_zero _

theorem left_keep (f : Filling N) : f.keep.left = f.left - 1 := by
  rw [left, left, keep]
  dsimp only
  omega

/-- A slot that has become another node is behind the position. -/
theorem left_sameSize {f : Filling N} {target : N} (h : Host.SameSize f.target target) :
    (⟨target, f.position + 1⟩ : Filling N).left = f.left - 1 := by
  rw [left, left, h.childCount]
  dsimp only
  omega

/-- What is finished has no slot left. -/
theorem left_of_finish {f : Filling N} {node : N} (h : f.finish.outcome = .ok node) : f.left = 0 := by
  rw [finish] at h
  split at h
  · next hend =>
    rw [left, hend]
    exact Int.sub_self _
  · cases h

variable [Counted N]

/-- A node in front of the slot leaves as many slots. -/
theorem left_insert {f : Filling N} (h : Host.text? f.target = none) (node : N) :
    (f.insert node).left = f.left := by
  rw [left, left, insert, Counted.childCount_insertChild h]
  dsimp only
  omega

theorem left_foldl_insert (nodes : List N) {f : Filling N} (h : Host.text? f.target = none) :
    (nodes.foldl insert f).left = f.left ∧ Host.text? (nodes.foldl insert f).target = none := by
  induction nodes generalizing f with
  | nil => exact ⟨rfl, h⟩
  | cons node rest ih =>
    have hframe : Host.text? (f.insert node).target = none := (Counted.text?_insertChild ..).trans h
    obtain ⟨hleft, htext⟩ := ih hframe
    exact ⟨hleft.trans (left_insert h node), htext⟩

theorem sameSize_setAll (target : N) (values : List (String × String)) :
    Host.SameSize target (setAll target values) := by
  have hset (n : N) (value : String × String) := Counted.setAttribute n value.1 value.2
  exact .foldl hset values target

end Filling

namespace Entry

variable [Counted N]

/-- **Each entry that is no directive uses up one slot, and a directive none.** -/
theorem left_fillSlots (scope : Scope) : ∀ {children : List (Entry N)} {filling filled : Filling N},
    Host.text? filling.target = none → (fillSlots scope children filling).outcome = .ok filled →
      filled.left = filling.left - children.countP claims
  | [], filling, filled, _, h => by
      rw [fillSlots] at h
      rw [← Except.ok.inj h]
      exact (Int.sub_zero _).symm
  | .flow f :: rest, filling, filled, htext, h => by
      rw [fillSlots, Traced.outcome_bind, Filling.insertAll, Rendering.outcome_foldUntilError] at h
      obtain ⟨inserted, hinserted, hrest⟩ := Except.ok_of_bind h
      obtain ⟨nodes, -, rfl⟩ := Except.ok_of_map hinserted
      obtain ⟨hleft, hframe⟩ := Filling.left_foldl_insert nodes htext
      rw [left_fillSlots scope hframe hrest, hleft, List.countP_cons_of_neg Bool.false_ne_true]
  | .static node :: rest, filling, filled, htext, h => by
      rw [fillSlots] at h
      split at h
      · have hkeep : Host.text? filling.keep.target = none := htext
        rw [left_fillSlots scope hkeep h, Filling.left_keep, List.countP_cons_of_pos rfl]
        omega
      · cases h
  | .leaf text :: rest, filling, filled, htext, h => by
      rw [fillSlots] at h
      split at h
      · rw [Traced.outcome_bind] at h
        obtain ⟨content, -, hrest⟩ := Except.ok_of_bind h
        have hsize := Counted.replaceChild filling.target filling.position (Host.ofText content)
        have hleft : (filling.replace (Host.ofText content)).left = filling.left - 1 :=
          Filling.left_sameSize hsize
        rw [left_fillSlots scope (hsize.text?.trans htext) hrest, hleft, List.countP_cons_of_pos rfl]
        omega
      · cases h
  | .element skeleton attributes children :: rest, filling, filled, htext, h => by
      rcases hslot : filling.hasSlot with _ | _
      · rw [fillSlots, hslot] at h
        cases h
      rcases hfocus : Host.focusChild? filling.target filling.position with _ | ⟨slot, put⟩
      · rw [fillSlots, hslot, if_pos rfl, hfocus] at h
        cases h
      rw [fillSlots_element scope skeleton attributes children rest hslot hfocus, Traced.outcome_bind] at h
      obtain ⟨node, -, hrest⟩ := Except.ok_of_bind h
      have hsize := Counted.put hfocus node
      rw [left_fillSlots scope (hsize.text?.trans htext) hrest, Filling.left_sameSize hsize,
        List.countP_cons_of_pos rfl]
      omega

/-- **An element comes out only of a copy with a child for each entry that is no directive.** -/
theorem childCount_of_fillElement {scope : Scope} {attributes : List (String × Interpolation)}
    {children : List (Entry N)} {copy node : N} (htext : Host.text? copy = none)
    (h : (fillElement scope attributes children copy).outcome = .ok node) :
    Host.childCount copy = children.countP claims := by
  rw [fillElement, Traced.outcome_bind, Filling.outcome_attributes] at h
  obtain ⟨target, htarget, h⟩ := Except.ok_of_bind h
  rcases hvalues : Filling.values scope attributes with p | values
  · rw [hvalues] at htarget
    cases htarget
  rw [hvalues] at htarget
  obtain rfl : Filling.setAll copy values = target := Except.ok.inj htarget
  rw [Traced.outcome_bind] at h
  obtain ⟨filled, hfilled, hfinish⟩ := Except.ok_of_bind h
  have hsize := Filling.sameSize_setAll copy values
  have hleft := left_fillSlots scope (hsize.text?.trans htext) hfilled
  rw [Filling.left_of_finish hfinish, Filling.left_start, hsize.childCount] at hleft
  omega

/-! ## Skeletons -/

omit [Counted N] in
theorem isSome_slot? (entry : Entry N) : entry.slot?.isSome = entry.claims := by cases entry <;> rfl

/-- Attaching entries makes a child for each that is no directive. -/
theorem childCount_foldl_attach (children : List (Entry N)) {frame : N} (h : Host.text? frame = none) :
    Host.text? (children.foldl attach frame) = none ∧
      Host.childCount (children.foldl attach frame) = Host.childCount frame + children.countP claims := by
  induction children generalizing frame with
  | nil => exact ⟨h, rfl⟩
  | cons entry rest ih =>
    have hclaims := entry.isSome_slot?
    rw [List.foldl_cons, attach]
    rcases hslot : entry.slot? with _ | slot
    · rw [hslot] at hclaims
      rw [List.countP_cons_of_neg (by rw [← hclaims]; exact Bool.false_ne_true)]
      exact ih h
    · rw [hslot] at hclaims
      have hframe : Host.text? (Host.append frame slot) = none := (Counted.text?_insertChild ..).trans h
      obtain ⟨htext, hcount⟩ := ih hframe
      refine ⟨htext, hcount.trans ?_⟩
      rw [Host.append, Counted.childCount_insertChild h, List.countP_cons_of_pos hclaims.symm]
      omega

/-- A bare skeleton is of the same kind as its node and has no children. -/
theorem childCount_bareSkeleton (placeholder : Placeholder) (node : N) :
    Host.text? (bareSkeleton placeholder node) = Host.text? node ∧
      Host.childCount (bareSkeleton placeholder node) = 0 := by
  have hremove (n : N) (entry : String × Interpolation) := Counted.removeAttribute n entry.1
  have hsize := Host.SameSize.foldl hremove (dynamicAttributes placeholder node) (Host.shell node)
  exact ⟨hsize.text?.trans (Counted.text?_shell node),
    hsize.childCount.trans (Counted.childCount_shell node)⟩

/-- **The skeleton of an element has a child for each entry that is no directive.** -/
theorem childCount_skeleton {placeholder : Placeholder} {node skeleton : N} (h : Host.text? node = none)
    {attributes : List (String × Interpolation)} {inside children : List (Entry N)}
    (hmade : ofElement placeholder node inside = .element skeleton attributes children) :
    Host.text? skeleton = none ∧ Host.childCount skeleton = children.countP claims := by
  obtain ⟨hbare, hnone⟩ := childCount_bareSkeleton placeholder node
  change (ite _ _ _ : Entry N) = _ at hmade
  split at hmade
  · cases hmade
  · obtain ⟨rfl, -, rfl⟩ := Entry.element.inj hmade
    have hattach := childCount_foldl_attach inside (hbare.trans h)
    rw [hnone, Nat.zero_add] at hattach
    exact hattach

end Entry

end Stencil
