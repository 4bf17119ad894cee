import Stencil.Proofs.Entry.Element
import Stencil.Proofs.Entry.Settled

/-!
# Proofs/Entry/Interleaving — elements whose skeletons were made by hand

    children of the skeleton   a   b   c          one for each entry but directives
    entries                  f  a'  b'  g  c'
    children of the result   f… a″  b″  g… c″

An element that is put together by hand need not fit its skeleton.  What it comes to can be said without
a position that walks along a list while it grows (`Entry.patched`): every entry puts in its block of nodes,
one that is no directive in exchange for the next child of the skeleton, and the blocks stand one after
another.  An entry that finds no child left is an error, and so are children that no entry claims.
-/

namespace Stencil

namespace Entry

/-! ## The blocks of an element -/

/-- Whether an entry claims a child of the skeleton: a directive does not. -/
def claims {N : Type} : Entry N → Bool
  | flow _ => false
  | _ => true

/-- The element that a slot becomes when its entries have put blocks in the place of its children.  There
are fewer blocks than entries if one of them has found no child left. -/
def fitted (scope : Scope) (attributes : List (String × Interpolation)) (entries : List (Entry Node))
    (slot : Node) (inside : Except RenderError (List (List Node))) : Except RenderError Node := do
  let values ← (Filling.values scope attributes).mapError .path
  let blocks ← inside
  if blocks.length < entries.length then
    .error (.misaligned slot.tag? (.noSlotLeft blocks.flatten.length blocks.flatten.length))
  else if entries.countP claims < slot.children.length then
    .error (.misaligned slot.tag? (.slotsLeft (slot.children.length - entries.countP claims)))
  else .ok (Faithful.withChildren (Filling.setAll slot values) blocks.flatten)

mutual
/-- What an entry puts in for the child of a skeleton.  A directive claims no child. -/
def block (scope : Scope) : Entry Node → (child : Node) → Except RenderError (List Node)
  | .static _, child => .ok [child]
  | .leaf text, _ => ((text.render scope).mapError .path).map fun content => [.text content]
  | .element _ attributes entries, child =>
      (fitted scope attributes entries child (blocks scope entries child.children)).map ([·])
  | .flow f, _ => (renderFlow scope f).output.result
/-- What entries put in, the next child for each that claims one, up to the first that finds none. -/
def blocks (scope : Scope) : List (Entry Node) → (slots : List Node) →
    Except RenderError (List (List Node))
  | [], _ => .ok []
  | .flow f :: rest, slots => do
      let own ← (renderFlow scope f).output.result
      let others ← blocks scope rest slots
      .ok (own :: others)
  | _ :: _, [] => .ok []
  | entry :: rest, child :: slots => do
      let own ← block scope entry child
      let others ← blocks scope rest slots
      .ok (own :: others)
end

/-- **The element that a slot becomes**: its attributes filled in, and the blocks of its entries in the
place of its children. -/
def patched (scope : Scope) (attributes : List (String × Interpolation))
    (entries : List (Entry Node)) (slot : Node) : Except RenderError Node :=
  fitted scope attributes entries slot (blocks scope entries slot.children)

mutual
/-- Whether something holds of the entries of an element and the slot it is patched into, and so on of
every element below and its slot. -/
def EverySlot (P : List (Entry Node) → Node → Prop) : Entry Node → (slot : Node) → Prop
  | .element _ _ entries, slot => P entries slot ∧ EverySlots P entries slot.children
  | _, _ => True
/-- The same for entries and the slots they claim. -/
def EverySlots (P : List (Entry Node) → Node → Prop) : List (Entry Node) → (slots : List Node) → Prop
  | [], _ => True
  | .flow _ :: rest, slots => EverySlots P rest slots
  | _ :: _, [] => True
  | entry :: rest, slot :: slots => EverySlot P entry slot ∧ EverySlots P rest slots
end

/-! ## Filling in -/

@[simp] theorem tag?_setAll (slot : Node) (values : List (String × String)) :
    (Filling.setAll slot values).tag? = slot.tag? := by
  induction values generalizing slot with
  | nil => rfl
  | cons value rest ih =>
    rw [Filling.setAll_cons, ih]
    change (Node.setAttribute slot value.1 value.2).tag? = slot.tag?
    unfold Node.setAttribute
    split <;> rfl

/-- How far an element is filled in when its entries have put in their blocks. -/
def reachedBy (frame : Node) (entries : List (Entry Node)) (done slots : List Node)
    (blocks : List (List Node)) : Except RenderError (Filling Node) :=
  let nodes := done ++ blocks.flatten
  if blocks.length < entries.length then
    .error (.misaligned frame.tag? (.noSlotLeft nodes.length nodes.length))
  else .ok (.reached frame nodes (slots.drop (entries.countP claims)))

/-- A block more, and what the entries behind it put in stands behind it. -/
theorem bind_reachedBy {frame : Node} {entry : Entry Node} {rest : List (Entry Node)}
    {done slots slots' : List Node} (own : Except RenderError (List Node))
    (others : Except RenderError (List (List Node)))
    (hslots : slots.drop ((entry :: rest).countP claims) = slots'.drop (rest.countP claims)) :
    (do let block ← own
        let blocks ← others
        .ok (block :: blocks)).bind (reachedBy frame (entry :: rest) done slots) =
      own.bind fun block => others.bind (reachedBy frame rest (done ++ block) slots') := by
  rcases own with e | block
  · rfl
  · rcases others with e | blocks
    · rfl
    · change reachedBy frame (entry :: rest) done slots (block :: blocks) =
        reachedBy frame rest (done ++ block) slots' blocks
      simp only [reachedBy, hslots, List.flatten_cons, List.append_assoc, List.length_cons,
        Nat.add_lt_add_iff_right]

section Claims

variable (scope : Scope) {entry : Entry Node} (h : entry.claims = true) (rest : List (Entry Node))

include h

/-- One child is dropped with the entry that claims it. -/
theorem drop_countP_claims (child : Node) (slots : List Node) :
    (child :: slots).drop ((entry :: rest).countP claims) = slots.drop (rest.countP claims) := by
  rw [List.countP_cons_of_pos h, List.drop_succ_cons]

theorem blocks_nil_slots : blocks scope (entry :: rest) [] = .ok [] := by
  cases entry <;> first | exact absurd h Bool.false_ne_true | rfl

theorem blocks_cons_slots (child : Node) (slots : List Node) :
    blocks scope (entry :: rest) (child :: slots) = (do
      let own ← block scope entry child
      let others ← blocks scope rest slots
      .ok (own :: others)) := by
  cases entry <;> first | exact absurd h Bool.false_ne_true | rfl

/-- An entry that finds no child left is an error, with all that has been put in before it counted. -/
theorem outcome_fillSlots_nil_slots {frame : Node} (hframe : Host.text? frame = none) (done : List Node) :
    (fillSlots scope (entry :: rest) (.reached frame done [])).outcome =
      (blocks scope (entry :: rest) []).bind (reachedBy frame (entry :: rest) done []) := by
  have hcount : Host.childCount (Filling.reached frame done []).target = done.length :=
    Filling.childCount_reached hframe done []
  have hslot : ¬ (Filling.reached frame done []).hasSlot = true := by
    rw [Filling.hasSlot, hcount, decide_eq_true_eq]
    exact Nat.lt_irrefl _
  have hnone : (Filling.reached frame done []).noSlotLeft =
      .misaligned frame.tag? (.noSlotLeft done.length done.length) := by
    rw [Filling.noSlotLeft, hcount]
    rfl
  have hreached : reachedBy frame (entry :: rest) done [] [] =
      .error (.misaligned frame.tag? (.noSlotLeft done.length done.length)) := by
    simp [reachedBy]
  rw [blocks_nil_slots scope h]
  refine Eq.trans ?_ hreached.symm
  rw [← hnone]
  cases entry with
  | flow f => exact absurd h Bool.false_ne_true
  | static node => rw [fillSlots, if_neg hslot]; rfl
  | leaf text => rw [fillSlots, if_neg hslot]; rfl
  | element skeleton attributes entries => rw [fillSlots, if_neg hslot]; rfl

end Claims

/-- The slot is an element. -/
def OnElement (_ : List (Entry Node)) (slot : Node) : Prop := slot.text? = none

/-- An element is finished when no slot is left. -/
theorem outcome_finish_reached {frame : Node} (hframe : Host.text? frame = none) (done slots : List Node) :
    (Filling.reached frame done slots).finish.outcome =
      if 0 < slots.length then .error (.misaligned frame.tag? (.slotsLeft slots.length))
      else .ok (Faithful.withChildren frame done) := by
  rcases slots with _ | ⟨slot, slots⟩
  · rw [Filling.finish_reached hframe]
    rfl
  · have hcount := Filling.childCount_reached hframe done (slot :: slots)
    have hposition : (Filling.reached frame done (slot :: slots)).position = done.length := rfl
    rw [Filling.finish, hcount, hposition, if_neg (by simp), Nat.add_sub_cancel_left]
    rfl

/-- Filling in the slots of an element is most of patching it. -/
theorem outcome_fillElement_of (scope : Scope) (attributes : List (String × Interpolation))
    (entries : List (Entry Node)) {slot : Node} (hslot : Host.text? slot = none)
    (hfill : ∀ frame : Node, Host.text? frame = none →
      (fillSlots scope entries (.reached frame [] slot.children)).outcome =
        (blocks scope entries slot.children).bind (reachedBy frame entries [] slot.children)) :
    (fillElement scope attributes entries slot).outcome = patched scope attributes entries slot := by
  rw [fillElement, Traced.outcome_bind, Filling.outcome_attributes, patched, fitted]
  rcases Filling.values scope attributes with e | values
  · rfl
  · have hframe : Host.text? (Filling.setAll slot values) = none := by
      rw [Filling.text?_setAll, hslot]
    have hstart : Filling.start (Filling.setAll slot values) =
        .reached (Filling.setAll slot values) [] slot.children := by
      rw [← Filling.start_withChildren, ← Filling.setAll_withChildren]
      exact congrArg (fun n => Filling.start (Filling.setAll n values))
        (Faithful.withChildren_children slot).symm
    change (fillSlots scope entries (.start (Filling.setAll slot values)) >>= Filling.finish).outcome =
      (blocks scope entries slot.children).bind _
    rw [Traced.outcome_bind, hstart, hfill _ hframe]
    rcases blocks scope entries slot.children with e | blocks
    · rfl
    · change (reachedBy (Filling.setAll slot values) entries [] slot.children blocks).bind _ = ite _ _ _
      rw [reachedBy, tag?_setAll, List.nil_append]
      split
      · rfl
      · refine (outcome_finish_reached hframe _ _).trans ?_
        simp only [tag?_setAll, List.length_drop, Nat.sub_pos_iff_lt]

/-- **Walking along the children of any skeleton puts the blocks of the entries in their place.** -/
theorem outcome_fillSlots_reached (scope : Scope) : ∀ (entries : List (Entry Node)) {frame : Node}
    (done slots : List Node), Host.text? frame = none → EverySlots OnElement entries slots →
      (fillSlots scope entries (.reached frame done slots)).outcome =
        (blocks scope entries slots).bind (reachedBy frame entries done slots)
  | [], frame, done, slots, _, _ => by
      simp [fillSlots, blocks, reachedBy, Except.bind, Traced.ok]
  | .flow f :: rest, frame, done, slots, hframe, hslots => by
      have hdrop : slots.drop ((.flow f :: rest).countP claims) = slots.drop (rest.countP claims) := rfl
      rw [blocks, bind_reachedBy _ _ hdrop, fillSlots, Traced.outcome_bind,
        Filling.insertAll, Rendering.outcome_foldUntilError]
      rcases (renderFlow scope f).output.result with e | own
      · rfl
      · refine (congrArg (fun x => (fillSlots scope rest x).outcome)
          (Filling.foldl_insert_reached hframe done slots own)).trans ?_
        exact outcome_fillSlots_reached scope rest (done ++ own) slots hframe hslots
  | .static node :: rest, frame, done, [], hframe, _ =>
      outcome_fillSlots_nil_slots scope rfl rest hframe done
  | .static node :: rest, frame, done, child :: slots, hframe, hslots => by
      rw [blocks_cons_slots scope rfl, bind_reachedBy _ _ (drop_countP_claims rfl rest child slots),
        fillSlots, if_pos (Filling.hasSlot_reached_cons hframe ..), Filling.keep_reached]
      exact outcome_fillSlots_reached scope rest (done ++ [child]) slots hframe hslots.2
  | .leaf text :: rest, frame, done, [], hframe, _ =>
      outcome_fillSlots_nil_slots scope rfl rest hframe done
  | .leaf text :: rest, frame, done, child :: slots, hframe, hslots => by
      rw [blocks_cons_slots scope rfl, bind_reachedBy _ _ (drop_countP_claims rfl rest child slots),
        fillSlots, if_pos (Filling.hasSlot_reached_cons hframe ..), Traced.outcome_bind,
        Traced.outcome_ofPath, block]
      rcases text.render scope with e | content
      · rfl
      · refine (congrArg (fun x => (fillSlots scope rest x).outcome)
          (Filling.replace_reached hframe done slots child (.text content))).trans ?_
        exact outcome_fillSlots_reached scope rest (done ++ [.text content]) slots hframe hslots.2
  | .element skeleton attributes entries :: rest, frame, done, [], hframe, _ =>
      outcome_fillSlots_nil_slots scope rfl rest hframe done
  | .element skeleton attributes entries :: rest, frame, done, child :: slots, hframe, hslots => by
      have hfocus := Filling.focusChild?_reached hframe done slots child
      have hchild : (fillElement scope attributes entries child).outcome =
          patched scope attributes entries child :=
        outcome_fillElement_of scope attributes entries hslots.1.1 fun frame hframe =>
          outcome_fillSlots_reached scope entries [] child.children hframe hslots.1.2
      rw [blocks_cons_slots scope rfl, bind_reachedBy _ _ (drop_countP_claims rfl rest child slots),
        fillSlots_element scope _ _ _ _ (Filling.hasSlot_reached_cons hframe ..) hfocus,
        Traced.outcome_bind, hchild, block, ← patched]
      rcases patched scope attributes entries child with e | node
      · rfl
      · refine (congrArg (fun x => (fillSlots scope rest x).outcome)
          (Filling.replace_reached hframe done slots child node)).trans ?_
        exact outcome_fillSlots_reached scope rest (done ++ [node]) slots hframe hslots.2

/-! ## What the blocks are -/

/-- Entries that have put in their blocks, each that claims a child in exchange for the next one. -/
inductive Placed (scope : Scope) : List (Entry Node) → (slots : List Node) → List (List Node) → Prop
  | nil {slots} : Placed scope [] slots []
  | flow {f rest slots own others} (hown : block scope (.flow f) (.text "") = .ok own)
      (hothers : Placed scope rest slots others) :
      Placed scope (.flow f :: rest) slots (own :: others)
  | child {entry rest child slots own others} (hclaims : entry.claims = true)
      (hown : block scope entry child = .ok own) (hothers : Placed scope rest slots others) :
      Placed scope (entry :: rest) (child :: slots) (own :: others)
  | noneLeft {entry rest} (hclaims : entry.claims = true) : Placed scope (entry :: rest) [] []

theorem placed_of_blocks {scope : Scope} : ∀ {entries : List (Entry Node)} {slots : List Node}
    {inside : List (List Node)}, blocks scope entries slots = .ok inside →
      Placed scope entries slots inside
  | [], slots, inside, h => by
      obtain rfl := Except.ok.inj h
      exact .nil
  | .flow f :: rest, slots, inside, h => by
      rw [blocks] at h
      obtain ⟨own, hown, h⟩ := Except.ok_of_bind h
      obtain ⟨others, hothers, h⟩ := Except.ok_of_bind h
      obtain rfl := Except.ok.inj h
      exact .flow hown (placed_of_blocks hothers)
  | .static _ :: _, [], _, h | .leaf _ :: _, [], _, h | .element _ _ _ :: _, [], _, h => by
      obtain rfl := Except.ok.inj h
      exact .noneLeft rfl
  | .static _ :: _, _ :: _, _, h | .leaf _ :: _, _ :: _, _, h | .element _ _ _ :: _, _ :: _, _, h => by
      obtain ⟨own, hown, h⟩ := Except.ok_of_bind h
      obtain ⟨others, hothers, h⟩ := Except.ok_of_bind h
      obtain rfl := Except.ok.inj h
      exact .child rfl hown (placed_of_blocks hothers)

/-- **The entry at each place has put in its block**, and the `k`-th of those that claim a child has put it
in for the `k`-th child. -/
theorem Placed.getElem? {scope : Scope} {entries : List (Entry Node)} {slots : List Node}
    {inside : List (List Node)} (h : Placed scope entries slots inside) {i : Nat} {nodes : List Node}
    (hi : inside[i]? = some nodes) :
    ∃ entry child, entries[i]? = some entry ∧
      (entry.claims = true → slots[(entries.take i).countP claims]? = some child) ∧
      block scope entry child = .ok nodes := by
  induction h generalizing i with
  | nil => cases hi
  | noneLeft => cases hi
  | @flow f rest slots own others hown _ ih =>
    rcases i with _ | i
    · obtain rfl := Option.some.inj hi
      exact ⟨.flow f, .text "", rfl, fun h => absurd h Bool.false_ne_true, hown⟩
    · exact ih hi
  | @child entry rest child slots own others hclaims hown _ ih =>
    rcases i with _ | i
    · obtain rfl := Option.some.inj hi
      exact ⟨entry, child, rfl, fun _ => rfl, hown⟩
    · obtain ⟨entry', child', hentry, hchild, hblock⟩ := ih hi
      refine ⟨entry', child', hentry, fun h => ?_, hblock⟩
      rw [List.take_succ_cons, List.countP_cons_of_pos hclaims]
      exact hchild h

/-- An entry finds no child left just if more entries claim one than there are. -/
theorem Placed.length_lt_iff {scope : Scope} {entries : List (Entry Node)} {slots : List Node}
    {inside : List (List Node)} (h : Placed scope entries slots inside) :
    inside.length < entries.length ↔ slots.length < entries.countP claims := by
  induction h with
  | nil => simp
  | noneLeft hclaims => simp [List.countP_cons_of_pos hclaims]
  | flow hown hothers ih => simpa [claims] using ih
  | child hclaims hown hothers ih => simpa [List.countP_cons_of_pos hclaims] using ih

theorem Placed.length_le {scope : Scope} {entries : List (Entry Node)} {slots : List Node}
    {inside : List (List Node)} (h : Placed scope entries slots inside) :
    inside.length ≤ entries.length := by
  induction h with
  | nil => exact Nat.le_refl 0
  | noneLeft => exact Nat.zero_le _
  | flow hown hothers ih => exact Nat.succ_le_succ ih
  | child hclaims hown hothers ih => exact Nat.succ_le_succ ih

/-- As many entries claim a child as there are. -/
def Balanced (entries : List (Entry Node)) (slot : Node) : Prop :=
  entries.countP claims = slot.children.length

/-- What has been patched has a block for every entry, and an entry for every child. -/
theorem patched_eq_ok {scope : Scope} {attributes : List (String × Interpolation)}
    {entries : List (Entry Node)} {slot node : Node}
    (h : patched scope attributes entries slot = .ok node) :
    ∃ values inside, Filling.values scope attributes = .ok values ∧
      blocks scope entries slot.children = .ok inside ∧ inside.length = entries.length ∧
      Balanced entries slot ∧
      node = Faithful.withChildren (Filling.setAll slot values) inside.flatten := by
  obtain ⟨values, hvalues, h⟩ := Except.ok_of_bind h
  obtain ⟨inside, hinside, h⟩ := Except.ok_of_bind h
  have hplaced := placed_of_blocks hinside
  split at h
  · cases h
  · next hshort =>
    split at h
    · cases h
    · next hleft =>
      have hvalues' : Filling.values scope attributes = .ok values := by
        rcases hread : Filling.values scope attributes with e | others
        · rw [hread] at hvalues
          cases hvalues
        · rw [hread] at hvalues
          exact congrArg Except.ok (Except.ok.inj hvalues)
      have hfew := mt hplaced.length_lt_iff.2 hshort
      have hmany := hplaced.length_le
      exact ⟨values, inside, hvalues', hinside, by omega, by unfold Balanced; omega,
        (Except.ok.inj h).symm⟩

/-- **Nothing comes of an element unless it is balanced**, and neither of an element with one below it in a
slot that is not. -/
theorem everySlots_balanced (scope : Scope) : ∀ (entries : List (Entry Node)) {slots : List Node}
    {inside : List (List Node)}, Placed scope entries slots inside →
      EverySlots Balanced entries slots
  | [], _, _, _ => trivial
  | .flow _ :: rest, _, _, h => by
      cases h with
      | flow _ hothers => exact everySlots_balanced scope rest hothers
      | child hclaims => exact absurd hclaims Bool.false_ne_true
      | noneLeft hclaims => exact absurd hclaims Bool.false_ne_true
  | .static _ :: rest, _, _, h | .leaf _ :: rest, _, _, h => by
      cases h with
      | child _ _ hothers => exact ⟨trivial, everySlots_balanced scope rest hothers⟩
      | noneLeft => trivial
  | .element _ _ entries :: rest, _, _, h => by
      cases h with
      | noneLeft => trivial
      | child _ hown hothers =>
        obtain ⟨node, hnode, -⟩ := Except.ok_of_map hown
        obtain ⟨_, _, -, hinside, -, hbalanced, -⟩ := patched_eq_ok hnode
        exact ⟨⟨hbalanced, everySlots_balanced scope entries (placed_of_blocks hinside)⟩,
          everySlots_balanced scope rest hothers⟩

/-! ## Elements on their own -/

/-- What is handed out for an element is what its skeleton is filled to. -/
theorem items_render_element (scope : Scope) (skeleton : Node)
    (attributes : List (String × Interpolation)) (entries : List (Entry Node)) :
    Step.items ((element skeleton attributes entries).render scope).steps =
      [(fillElement scope attributes entries skeleton).outcome] := by
  refine (settled_render scope (element skeleton attributes entries)).trans ?_
  rw [← output, output_element]
  change (Output.ofResult ((fillElement scope attributes entries skeleton).outcome.map _)).items = _
  cases (fillElement scope attributes entries skeleton).outcome <;> rfl

/-- **An element is interleaved from its skeleton and its entries**, whatever children the skeleton has: it
comes to what the skeleton is patched to.  If that is a node, its children are the blocks of all entries in
order, the `k`-th of those that claim a child having had the `k`-th, and in it and all elements below as
many entries claim a child as there are. -/
theorem items_render_element_of_slots (scope : Scope) {skeleton : Node}
    {attributes : List (String × Interpolation)} {entries : List (Entry Node)}
    (h : EverySlot OnElement (.element skeleton attributes entries) skeleton) :
    Step.items ((element skeleton attributes entries).render scope).steps =
        [patched scope attributes entries skeleton] ∧
      ∀ node, patched scope attributes entries skeleton = .ok node →
        (∃ (values : List (String × String)) (inside : List (List Node)),
          Filling.values scope attributes = .ok values ∧
          node = Faithful.withChildren (Filling.setAll skeleton values) inside.flatten ∧
          inside.length = entries.length ∧
          ∀ i nodes, inside[i]? = some nodes → ∃ entry child, entries[i]? = some entry ∧
            (entry.claims = true →
              skeleton.children[(entries.take i).countP claims]? = some child) ∧
            block scope entry child = .ok nodes) ∧
        EverySlot Balanced (.element skeleton attributes entries) skeleton := by
  refine ⟨?_, fun node hnode => ?_⟩
  · rw [items_render_element, outcome_fillElement_of scope attributes entries h.1 fun frame hframe =>
      outcome_fillSlots_reached scope entries [] skeleton.children hframe h.2]
  · obtain ⟨values, inside, hvalues, hinside, hlength, hbalanced, rfl⟩ := patched_eq_ok hnode
    have hplaced := placed_of_blocks hinside
    exact ⟨⟨values, inside, hvalues, rfl, hlength, fun i nodes => hplaced.getElem?⟩,
      hbalanced, everySlots_balanced scope entries hplaced⟩

/-- A list with a loop in front of an item and another in it: three nodes are put in before the child that
the item is patched into. -/
theorem items_render_element_of_slots_list :
    let hole : Interpolation := ⟨[("", ⟨"x"⟩)], "!"⟩
    let loop : Entry Node :=
      .flow (.loop ⟨⟨"xs"⟩, "x", none, none, false⟩ [.leaf hole] none)
    let skeleton : Node :=
      .element "ul" [("class", "c")] [.element "li" [] [.text "old"], .text "end"]
    let entries := [loop, .element (.text "unused") [("id", hole)] [loop, .leaf hole], .static (.text "")]
    let scope : Scope := .ofRoot (.mapping [("x", .string "a"), ("xs", .sequence [.string "b", .string "c"])])
    EverySlot OnElement (.element skeleton [("class", hole)] entries) skeleton ∧
      Step.items ((Entry.element skeleton [("class", hole)] entries).render scope).steps =
        [.ok (.element "ul" [("class", "a!")]
          [.text "b!", .text "c!",
            .element "li" [("id", "a!")] [.text "b!", .text "c!", .text "a!"], .text "end"])] := by
  intro hole loop skeleton entries scope
  have hslots : EverySlot OnElement (.element skeleton [("class", hole)] entries) skeleton :=
    ⟨rfl, ⟨rfl, trivial, trivial⟩, trivial, trivial⟩
  refine ⟨hslots, (items_render_element_of_slots scope hslots).1.trans ?_⟩
  rfl

end Entry

end Stencil
