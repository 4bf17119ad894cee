import Mathlib.Tactic.Abel
import Stencil.Node.Basic
import Stencil.Proofs.Entry.Parts
import Stencil.Proofs.Template.Reading
import Stencil.Template.Progress

/-!
# Proofs/Template/Census — the count of a template is a census of its entries

    source ──compile──▸ entries ──everywhere──▸ all of them, wherever they lie
      └────changes────▸ +1, +1, …  ──after──▸ one count for each sort

The count is changed while the entries are still being made, and what has been counted may be folded
away.  What carries the proof is that the changes of any siblings add just the census of what they are
compiled to, whatever was counted before (`Source.SiblingsRead.adds_siblingChanges`): then the children of an
element that collapses are all in the count, and no more is taken off than is there.  Companions are counted
where they stand and belong to the directive before them, so the siblings from a node on add the census of the
companions they hold beside that of their entries.
-/

namespace Stencil

/-! ## All entries -/

namespace Entry

variable {N : Type}

/-- Whether an entry is an element with something dynamic in it. -/
def isElement : Entry N → Bool
  | element _ _ _ => true
  | _ => false

/-- Whether an entry is a text with placeholders. -/
def isLeaf : Entry N → Bool
  | leaf _ => true
  | _ => false

/-- Whether an entry is a directive. -/
def isFlow : Entry N → Bool
  | flow _ => true
  | _ => false

/-- Some entries and all that lie below them: each entry, those of its parts, and then the others. -/
def everywhere : List (Entry N) → List (Entry N)
  | [] => []
  | e :: rest => e :: (e.parts.attach.flatMap (fun body => everywhere body.1) ++ everywhere rest)
termination_by entries => sizeOf entries
decreasing_by
  · have := sizeOf_lt_of_mem_parts body.2
    rw [List.cons.sizeOf_spec]
    omega
  · rw [List.cons.sizeOf_spec]
    omega

@[simp] theorem everywhere_nil : everywhere ([] : List (Entry N)) = [] := by rw [everywhere]

/-- The first entry, what lies below it, and the others. -/
@[simp] theorem everywhere_cons (e : Entry N) (rest : List (Entry N)) :
    everywhere (e :: rest) = e :: (e.parts.flatMap everywhere ++ everywhere rest) := by
  rw [everywhere, List.flatMap_subtype (fun _ _ => rfl), List.unattach_attach]

/-- **What is listed are the entries and all that lie within them.** -/
theorem mem_everywhere {e : Entry N} {entries : List (Entry N)} :
    e ∈ everywhere entries ↔ e.Within entries := by
  induction entries using induction with
  | nil => exact ⟨fun h => absurd h (by simp), fun h => by cases h⟩
  | cons x rest hparts hrest =>
    rw [everywhere_cons, List.mem_cons, List.mem_append, List.mem_flatMap, hrest]
    constructor
    · rintro (rfl | ⟨body, hbody, h⟩ | h)
      · exact .here
      · exact .part hbody ((hparts body hbody).1 h)
      · exact .later h
    · rintro (_ | ⟨hbody, inside⟩ | behind)
      · exact .inl rfl
      · exact .inr (.inl ⟨_, hbody, (hparts _ hbody).2 inside⟩)
      · exact .inr (.inr behind)

end Entry

/-! ## Counts -/

namespace Tally

instance : Zero Tally := ⟨zero⟩

instance : Add Tally where
  add a b := ⟨a.statics + b.statics, a.elements + b.elements, a.leaves + b.leaves, a.flows + b.flows⟩

/-- Counts are added sort by sort. -/
instance : AddCommMonoid Tally where
  add_assoc a b c := by ext <;> exact Nat.add_assoc ..
  zero_add a := by ext <;> exact Nat.zero_add _
  add_zero a := by ext <;> exact Nat.add_zero _
  add_comm a b := by ext <;> exact Nat.add_comm ..
  nsmul := nsmulRec

/-- How many of some entries there are of each sort. -/
def ofEntries {N : Type} (entries : List (Entry N)) : Tally :=
  ⟨entries.countP Entry.isStatic, entries.countP Entry.isElement, entries.countP Entry.isLeaf,
    entries.countP Entry.isFlow⟩

@[simp] theorem ofEntries_nil {N : Type} : ofEntries ([] : List (Entry N)) = 0 := rfl

/-- Entries in two lists are counted one list after the other. -/
@[simp] theorem ofEntries_append {N : Type} (xs ys : List (Entry N)) :
    ofEntries (xs ++ ys) = ofEntries xs + ofEntries ys := by
  ext <;> exact List.countP_append

/-- **The census of some entries**: how many there are of each sort, wherever they lie. -/
def census {N : Type} (entries : List (Entry N)) : Tally := ofEntries (Entry.everywhere entries)

/-- The census of some bodies together. -/
def censusAll {N : Type} (bodies : List (List (Entry N))) : Tally :=
  ofEntries (bodies.flatMap Entry.everywhere)

@[simp] theorem census_nil {N : Type} : census ([] : List (Entry N)) = 0 := by
  rw [census, Entry.everywhere_nil, ofEntries_nil]

/-- **An entry counts itself and what it is put together from.** -/
theorem census_singleton {N : Type} (e : Entry N) :
    census [e] = ofEntries [e] + censusAll e.parts := by
  rw [census, Entry.everywhere_cons, Entry.everywhere_nil, List.append_nil, ← List.singleton_append,
    ofEntries_append]
  rfl

/-- The census of entries is that of the first and that of the others. -/
theorem census_cons {N : Type} (e : Entry N) (rest : List (Entry N)) :
    census (e :: rest) = census [e] + census rest := by
  rw [census_singleton, census, Entry.everywhere_cons, ← List.singleton_append, ofEntries_append,
    ofEntries_append, add_assoc]
  rfl

@[simp] theorem censusAll_nil {N : Type} : censusAll ([] : List (List (Entry N))) = 0 := rfl

theorem censusAll_cons {N : Type} (body : List (Entry N)) (rest : List (List (Entry N))) :
    censusAll (body :: rest) = census body + censusAll rest := by
  rw [censusAll, List.flatMap_cons, ofEntries_append]
  rfl

theorem censusAll_append {N : Type} (bodies others : List (List (Entry N))) :
    censusAll (bodies ++ others) = censusAll bodies + censusAll others := by
  rw [censusAll, List.flatMap_append, ofEntries_append]
  rfl

/-! ## Changes without saturation -/

/-- The count after a change, if no more is taken off than is there. -/
def after? (t : Tally) : Change → Option Tally
  | .collapse size => if size ≤ t.statics then some (t.after (.collapse size)) else none
  | change => some (t.after change)

/-- A change that does not saturate is the change. -/
theorem after_of_after? {t u : Tally} {change : Change} (h : t.after? change = some u) :
    t.after change = u := by
  cases change with
  | collapse size => exact Option.some.inj (Option.ite_none_right_eq_some.1 h).2
  | _ => exact Option.some.inj h

/-- Changes that go through without saturation come to the same with it. -/
theorem foldl_after {t u : Tally} {changes : List Change} (h : changes.foldlM after? t = some u) :
    changes.foldl after t = u := by
  induction changes generalizing t with
  | nil => exact Option.some.inj h
  | cons change rest ih =>
    obtain ⟨v, hv, h⟩ := Option.bind_eq_some_iff.1 h
    rw [List.foldl_cons, after_of_after? hv, ih h]

/-- Where the changes go through without saturation, none takes off more than has been counted. -/
theorem le_statics_of_foldlM {t u : Tally} {before later : List Change} {size : Nat}
    (h : (before ++ .collapse size :: later).foldlM after? t = some u) :
    size ≤ (before.foldl after t).statics := by
  rw [List.foldlM_append] at h
  obtain ⟨v, hbefore, h⟩ := Option.bind_eq_some_iff.1 h
  obtain ⟨w, hcollapse, -⟩ := Option.bind_eq_some_iff.1 h
  rw [foldl_after hbefore]
  exact (Option.ite_none_right_eq_some.1 hcollapse).1

end Tally

/-! ## Changes that add a census -/

namespace Tally

/-- Changes that go through without saturation and add a count to whatever was counted before. -/
def Adds (changes : List Change) (c : Tally) : Prop :=
  ∀ t : Tally, changes.foldlM after? t = some (t + c)

namespace Adds

variable {changes changes' : List Change} {c c' : Tally}

theorem of_eq (h : Adds changes c) (heq : c = c') : Adds changes c' := heq ▸ h

theorem nil : Adds [] 0 := fun t => congrArg some (add_zero t).symm

/-- **What is added in two stretches is added in both together.** -/
theorem append (h : Adds changes c) (h' : Adds changes' c') : Adds (changes ++ changes') (c + c') := by
  intro t
  rw [List.foldlM_append, h t]
  exact (h' (t + c)).trans (congrArg some (add_assoc t c c'))

theorem static : Adds [.static] ⟨1, 0, 0, 0⟩ := fun _ => rfl

theorem element : Adds [.element] ⟨0, 1, 0, 0⟩ := fun _ => rfl

theorem leaf : Adds [.leaf] ⟨0, 0, 1, 0⟩ := fun _ => rfl

theorem flow : Adds [.flow] ⟨0, 0, 0, 1⟩ := fun _ => rfl

/-- Where just the static children of an element have been counted, they may give way to one. -/
theorem collapse {size : Nat} (h : Adds changes ⟨size, 0, 0, 0⟩) :
    Adds (changes ++ [.collapse size]) ⟨1, 0, 0, 0⟩ := by
  intro t
  rw [List.foldlM_append, h t]
  have hle : size ≤ (t + ⟨size, 0, 0, 0⟩).statics := Nat.le_add_left ..
  have hsub : (t + ⟨size, 0, 0, 0⟩).statics - size = t.statics := Nat.add_sub_cancel ..
  have hafter : (t + ⟨size, 0, 0, 0⟩).after? (.collapse size) = some (t + ⟨1, 0, 0, 0⟩) := by
    rw [after?, if_pos hle, after, hsub]
    rfl
  exact congrArg (· >>= pure) hafter

end Adds

end Tally

/-! ## Siblings and cases -/

/-- Entries that never change have nothing below them. -/
theorem Entry.census_of_all_isStatic {N : Type} {entries : List (Entry N)}
    (h : entries.all isStatic = true) : Tally.census entries = ⟨entries.length, 0, 0, 0⟩ := by
  induction entries with
  | nil => exact Tally.census_nil
  | cons e rest ih =>
    obtain ⟨he, hrest⟩ := List.forall_mem_cons.1 (List.all_eq_true.1 h)
    rw [Tally.census_cons, ih (List.all_eq_true.2 hrest)]
    cases e with
    | static node =>
      rw [Tally.census_singleton]
      exact congrArg (Tally.mk · 0 0 0) (Nat.add_comm 1 rest.length)
    | _ => exact absurd he Bool.false_ne_true

/-- The census of what the companions of a directive are compiled to. -/
def Companions.census {N : Type} [Host N] (placeholder : Placeholder)
    (companions : Companions (Source N)) : Tally :=
  Tally.censusAll ((Source.compileElseIfs placeholder companions.elseIfs).map Branch.body) +
    Tally.censusAll (Source.compileOption placeholder companions.otherwise?).toList

section Changes

variable {N : Type} [Host N] {options : Options}

open Source
open Tally (Adds census censusAll)

/-- A text makes one entry. -/
theorem adds_textChange (node : N) (content : String) :
    Adds [textChange options content]
      (census [compile options.placeholder (.text node content)]) := by
  rw [textChange, compile, Entry.ofText]
  split
  · exact Adds.leaf.of_eq (Tally.census_singleton (.leaf _)).symm
  · exact Adds.static.of_eq (Tally.census_singleton (.static _)).symm

/-- An element adds itself to its children, or takes their place if none of them is dynamic. -/
theorem adds_elementChange {t : Tree N} {items : List (Source N)} {changes : List Tally.Change}
    (hbody : readBody options t = .ok items)
    (hchanges : Adds changes (census (compileAll options.placeholder items))) :
    Adds (changes ++ [elementChange options t])
      (census [compile options.placeholder (.element t.node items)]) := by
  have hentries : bodyEntries options t = compileAll options.placeholder items := by
    rw [bodyEntries, hbody]
  rw [elementChange, hentries, compile, Entry.ofElement]
  split
  · next hstatic =>
    rw [Entry.census_of_all_isStatic hstatic.2] at hchanges
    exact (Adds.collapse hchanges).of_eq (Tally.census_singleton (.static _)).symm
  · refine (hchanges.append Adds.element).of_eq ?_
    rw [Tally.census_singleton, Entry.parts, Tally.censusAll_cons, add_comm]
    rfl

/-- A tree whose changes, as a body and as the children of a switch, add the census of what it is compiled
to. -/
structure AddsBelow (options : Options) (t : Tree N) : Prop where
  body : ∀ {items : List (Source N)}, readBody options t = .ok items →
    Adds (siblingChanges options t.children) (census (compileAll options.placeholder items))
  switch : ∀ {cases : List (Branch Operand (Source N))} {otherwise? : Option (List (Source N))},
    readSwitch options t = .ok (cases, otherwise?) →
      Adds (caseChanges options t.children)
        (censusAll ((compileCases options.placeholder cases).map Branch.body) +
          censusAll (compileOption options.placeholder otherwise?).toList)

/-- What a node adds, by its role. -/
theorem changesOf_eq (t : Tree N) :
    changesOf options t =
      match options.role t.node with
      | .text content => [textChange options content]
      | .element => siblingChanges options t.children ++ [elementChange options t]
      | .directive _ (some .conditional) | .directive _ (some .loop) | .directive _ (some .binding) =>
          siblingChanges options t.children ++ [.flow]
      | .directive _ (some .switch) => caseChanges options t.children ++ [.flow]
      | .directive _ (some .comment) => []
      | .directive _ _ => siblingChanges options t.children := by
  obtain ⟨node, children⟩ := t
  rw [changesOf]
  rfl

/-- Below a node the changes are those of its children. -/
theorem changesOfBody_eq (t : Tree N) : changesOfBody options t = siblingChanges options t.children := by
  obtain ⟨node, children⟩ := t
  rw [changesOfBody, Tree.children_mk]

variable (placeholder : Placeholder)

theorem census_compileAll_cons (item : Source N) (items : List (Source N)) :
    census (compileAll placeholder (item :: items)) =
      census [compile placeholder item] + census (compileAll placeholder items) := by
  rw [compileAll, Tally.census_cons _ (compileAll placeholder items)]

/-- A directive counts itself and its bodies. -/
theorem census_compile_flow (f : Flow (Source N)) :
    census [compile placeholder (.flow f)] =
      ⟨0, 0, 0, 1⟩ + censusAll (compileFlow placeholder f).bodies := by
  rw [compile, Tally.census_singleton]
  rfl

theorem censusAll_compileOption_some (body : List (Source N)) :
    censusAll (compileOption placeholder (some body)).toList = census (compileAll placeholder body) := by
  rw [compileOption, Option.toList_some, Tally.censusAll_cons, Tally.censusAll_nil, add_zero]

@[simp] theorem Companions.census_none : (.none : Companions (Source N)).census placeholder = 0 := by
  rw [Companions.census, Companions.none, compileElseIfs, compileOption]
  rfl

/-- A branch more among the companions. -/
theorem Companions.census_cons (branch : Branch Condition (Source N))
    (companions : Companions (Source N)) :
    (companions.cons branch).census placeholder =
      Tally.census (compileAll placeholder branch.body) + companions.census placeholder := by
  rw [Companions.census, Companions.cons, compileElseIfs, List.map_cons, Tally.censusAll_cons, add_assoc]
  rfl

/-- The last branch, which has no condition. -/
theorem Companions.census_otherwise (body : List (Source N)) :
    (Companions.otherwise body).census placeholder = Tally.census (compileAll placeholder body) := by
  rw [Companions.census, Companions.otherwise, compileElseIfs, censusAll_compileOption_some]
  exact zero_add _

variable {placeholder}

/-- **The changes of siblings add the census of their entries and of their companions**, if the changes
below each of them do. -/
theorem Source.SiblingsRead.adds_siblingChanges {pairing : Pairing} {ts : List (Tree N)}
    {companions : Companions (Source N)} {items : List (Source N)}
    (h : SiblingsRead options pairing ts companions items) (below : ∀ t ∈ ts, AddsBelow options t) :
    Adds (siblingChanges options ts)
      (companions.census options.placeholder + census (compileAll options.placeholder items)) := by
  induction h with
  | nil =>
    rw [siblingChanges, compileAll, Companions.census_none, Tally.census_nil, add_zero]
    exact .nil
  | @text _ t _ content _ _ role behind ih =>
    obtain ⟨-, hrest⟩ := List.forall_mem_cons.1 below
    simp only [siblingChanges, changesOf_eq, role]
    refine ((adds_textChange t.node content).append (ih hrest)).of_eq ?_
    rw [census_compileAll_cons, add_left_comm]
  | element role body behind ih =>
    obtain ⟨ht, hrest⟩ := List.forall_mem_cons.1 below
    simp only [siblingChanges, changesOf_eq, role]
    refine ((adds_elementChange body (ht.body body)).append (ih hrest)).of_eq ?_
    rw [census_compileAll_cons, add_left_comm]
  | conditional role reads body behind ih =>
    obtain ⟨ht, hrest⟩ := List.forall_mem_cons.1 below
    simp only [siblingChanges, changesOf_eq, role]
    refine (((ht.body body).append .flow).append (ih hrest)).of_eq ?_
    -- the companions further on are in the census of the conditional
    rw [census_compileAll_cons, census_compile_flow, compileFlow, Flow.bodies, Tally.censusAll_cons,
      Tally.censusAll_append, ← Companions.census, Companions.census_none]
    abel
  | elseIf role reads body behind ih =>
    obtain ⟨ht, hrest⟩ := List.forall_mem_cons.1 below
    simp only [siblingChanges, changesOf_eq, role]
    refine ((ht.body body).append (ih hrest)).of_eq ?_
    rw [Companions.census_cons, add_assoc]
  | otherwise role body behind ih =>
    obtain ⟨ht, hrest⟩ := List.forall_mem_cons.1 below
    simp only [siblingChanges, changesOf_eq, role]
    refine ((ht.body body).append (ih hrest)).of_eq ?_
    rw [behind.eq_none, Companions.census_none, zero_add, Companions.census_otherwise]
  | loop role reads body behind ih =>
    obtain ⟨ht, hrest⟩ := List.forall_mem_cons.1 below
    simp only [siblingChanges, changesOf_eq, role]
    refine (((ht.body body).append .flow).append (ih hrest)).of_eq ?_
    rw [census_compileAll_cons, census_compile_flow, compileFlow, Flow.bodies, Tally.censusAll_cons,
      Companions.census, behind.elseIfs_eq_nil (by decide), compileElseIfs, Companions.census_none]
    rw [List.map_nil, Tally.censusAll_nil]
    abel
  | loopElse role body behind ih =>
    obtain ⟨ht, hrest⟩ := List.forall_mem_cons.1 below
    simp only [siblingChanges, changesOf_eq, role]
    refine ((ht.body body).append (ih hrest)).of_eq ?_
    rw [behind.eq_none, Companions.census_none, zero_add, Companions.census_otherwise]
  | binding role body behind ih =>
    obtain ⟨ht, hrest⟩ := List.forall_mem_cons.1 below
    simp only [siblingChanges, changesOf_eq, role]
    refine (((ht.body body).append .flow).append (ih hrest)).of_eq ?_
    rw [census_compileAll_cons, census_compile_flow, compileFlow, Flow.bodies, Tally.censusAll_cons,
      Tally.censusAll_nil]
    abel
  | switch role reads body behind ih =>
    obtain ⟨ht, hrest⟩ := List.forall_mem_cons.1 below
    simp only [siblingChanges, changesOf_eq, role]
    refine (((ht.switch body).append .flow).append (ih hrest)).of_eq ?_
    rw [census_compileAll_cons, census_compile_flow, compileFlow, Flow.bodies, Tally.censusAll_append]
    abel
  | comment role behind ih =>
    obtain ⟨-, hrest⟩ := List.forall_mem_cons.1 below
    simp only [siblingChanges, changesOf_eq, role]
    exact ih hrest

/-- **The changes of cases add the census of their bodies**, if the changes below each of them do. -/
theorem Source.CasesRead.adds_caseChanges {hasDefault : Bool} {ts : List (Tree N)}
    {cases : List (Branch Operand (Source N))} {otherwise? : Option (List (Source N))}
    (h : CasesRead options hasDefault ts cases otherwise?) (below : ∀ t ∈ ts, AddsBelow options t) :
    Adds (caseChanges options ts)
      (censusAll ((compileCases options.placeholder cases).map Branch.body) +
        censusAll (compileOption options.placeholder otherwise?).toList) := by
  induction h with
  | nil =>
    rw [caseChanges, compileCases, compileOption]
    exact .nil
  | case role reads body behind ih =>
    obtain ⟨ht, hrest⟩ := List.forall_mem_cons.1 below
    simp only [caseChanges, role, changesOfBody_eq]
    refine ((ht.body body).append (ih hrest)).of_eq ?_
    rw [compileCases, List.map_cons, Tally.censusAll_cons, add_assoc]
  | caseDefault role body behind ih =>
    obtain ⟨ht, hrest⟩ := List.forall_mem_cons.1 below
    simp only [caseChanges, role, changesOfBody_eq]
    refine ((ht.body body).append (ih hrest)).of_eq ?_
    rw [behind.otherwise_eq_none, censusAll_compileOption_some, compileOption, Option.toList_none,
      Tally.censusAll_nil, add_zero, add_comm]
  | comment role behind ih =>
    obtain ⟨-, hrest⟩ := List.forall_mem_cons.1 below
    simp only [caseChanges, role]
    exact ih hrest
  | blank role hblank behind ih =>
    obtain ⟨-, hrest⟩ := List.forall_mem_cons.1 below
    simp only [caseChanges, role]
    exact ih hrest

/-- **The changes below a node add the census of what is compiled there.** -/
theorem addsBelow (t : Tree N) : AddsBelow options t := by
  induction t using Tree.induction with
  | step t below =>
    refine ⟨fun {items} hbody => ?_, fun {cases otherwise?} hswitch => ?_⟩
    · obtain ⟨companions, hread⟩ := siblingsRead_of_readBody hbody
      have hadds := hread.adds_siblingChanges below
      rwa [hread.eq_none, Companions.census_none, zero_add] at hadds
    · rw [readSwitch_eq] at hswitch
      exact (casesRead_of_eq_ok hswitch).adds_caseChanges below

/-- **The changes of a template add the census of its entries.** -/
theorem adds_siblingChanges_of_read {nodes : List N} {items : List (Source N)}
    (h : Source.read options nodes = .ok items) :
    Adds (siblingChanges options (nodes.map Host.tree))
      (census (compileAll options.placeholder items)) := by
  obtain ⟨⟨companions, _⟩, hread, rfl⟩ := Except.ok_of_map h
  have hsiblings := siblingsRead_of_eq_ok hread
  have hadds := hsiblings.adds_siblingChanges fun t _ => addsBelow t
  rwa [hsiblings.eq_none, Companions.census_none, zero_add] at hadds

end Changes

/-! ## The whole template -/

/-- What is counted is the census of what is compiled. -/
theorem Template.tally_eq_map {N : Type} [Host N] (options : Options) (nodes : List N) :
    tally options nodes =
      (compile options nodes).map fun template => Tally.census template.entries := by
  rw [tally, changes, compile]
  rcases hread : Source.read options nodes with e | items
  · rfl
  · have hadds := adds_siblingChanges_of_read hread .zero
    exact congrArg Except.ok ((Tally.foldl_after hadds).trans (zero_add _))

/-- **The count of a template is the census of its entries**, and on the way no more is ever taken off it
than has been counted. -/
theorem Template.tally_eq_census {N : Type} [Host N] {options : Options} {nodes : List N}
    {template : Template N} (h : compile options nodes = .ok template) :
    tally options nodes = .ok (Tally.census template.entries) ∧
      summary options nodes =
        .ok (.compiledTemplate template.entries.length (Tally.census template.entries)) ∧
      ∃ all, changes options nodes = .ok all ∧
        ∀ before size later, all = before ++ .collapse size :: later →
          size ≤ (before.foldl Tally.after .zero).statics := by
  have htally : tally options nodes = .ok (Tally.census template.entries) := by
    rw [tally_eq_map, h]
    rfl
  have hsummary : summary options nodes =
      .ok (.compiledTemplate template.entries.length (Tally.census template.entries)) := by
    rw [summary, h, htally]
    rfl
  obtain ⟨items, hread, rfl⟩ := Except.ok_of_map h
  have hadds := adds_siblingChanges_of_read hread .zero
  refine ⟨htally, hsummary, siblingChanges options (nodes.map Host.tree), ?_, ?_⟩
  · rw [changes, hread]
    rfl
  · intro before size later hall
    rw [hall] at hadds
    exact Tally.le_statics_of_foldlM hadds

/-- A list with a static element of three nodes that collapse into one, a comment, a directive with a
companion behind a blank text, and a switch whose default is written first. -/
theorem Template.tally_eq_census_list :
    let page : List Node :=
      [.element "ul" []
        [.element "li" [] [.text "a", .element "br" [] [], .text "b"],
          .element "gb-comment" [] [.text "\x7b\x7bhidden\x7d\x7d"],
          .element "gb-if" [("test", "x")] [.text "c"], .text " ",
          .element "gb-else" [] [.text "\x7b\x7by\x7d\x7d"],
          .element "gb-switch" [("value", "z")]
            [.element "gb-case-default" [] [.element "p" [] [.text "d"]],
              .element "gb-case" [("value", "e")] [.text "f"]]]]
    ∃ template, compile .default page = .ok template ∧
      Tally.census template.entries = ⟨5, 1, 1, 2⟩ ∧
      ∃ all, changes .default page = .ok all ∧
        ∀ before size later, all = before ++ .collapse size :: later →
          size ≤ (before.foldl Tally.after .zero).statics := by
  intro page
  have hcompile : ∃ template, compile Options.default page = .ok template := ⟨_, rfl⟩
  have hcount : tally Options.default page = .ok ⟨5, 1, 1, 2⟩ := by rfl
  obtain ⟨template, hcompile⟩ := hcompile
  obtain ⟨htally, -, hall⟩ := tally_eq_census hcompile
  exact ⟨template, hcompile, Except.ok.inj (htally.symm.trans hcount), hall⟩

/-- The default of a switch is counted where it is written. -/
example :
    Template.changes .default
      [Node.element "gb-switch" [("value", "z")]
        [.element "gb-case-default" [] [.element "p" [] [.text "d"]],
          .element "gb-case" [("value", "e")] [.text "f"]]] =
      .ok [.static, .collapse 1, .static, .flow] := by rfl

end Stencil
