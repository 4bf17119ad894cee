import Stencil.Proofs.Template.Grammar

/-!
# Proofs/Template/Rules — every check is a rule of the grammar

A running state says which directive is open and whether a default came before.  It amounts to what the
last node that counts was (`open_iff`) and to what is among the nodes before
(`foldl_defaultBehind_iff`).  So each check that is made at a node succeeds just if the rules are kept
there, and an error names a breach (`checkOwn_spec`, `checkPlace_spec`, `checkCase_spec`).
-/

namespace Stencil

namespace Grammar

variable {N : Type} [Host N] {options : Options}

/-! ## What is open before a node -/

/-- Splits of what is significant are splits of the whole at a significant node. -/
theorem significant_split {ts before after : List (Tree N)} {t : Tree N}
    (h : significant options ts = before ++ t :: after) :
    ∃ before' after', ts = before' ++ t :: after' ∧ significant options before' = before := by
  obtain ⟨front, back, rfl, hfront, hback⟩ := List.filter_eq_append_iff.1 h
  obtain ⟨passed, after', rfl, hpassed, -, -⟩ := List.filter_eq_cons_iff.1 hback
  refine ⟨front ++ passed, after', (List.append_assoc ..).symm, ?_⟩
  rw [significant, List.filter_append, hfront, List.filter_eq_nil_iff.2 hpassed, List.append_nil]

theorem significant_cons_of_passes {t : Tree N} (h : (options.role t.node).passes = true)
    (rest : List (Tree N)) : significant options (t :: rest) = significant options rest :=
  List.filter_cons_of_neg (by rw [h]; exact Bool.false_ne_true)

theorem significant_cons_of_not_passes {t : Tree N} (h : (options.role t.node).passes = false)
    (rest : List (Tree N)) : significant options (t :: rest) = t :: significant options rest :=
  List.filter_cons_of_pos (by rw [h]; rfl)

theorem significant_append_cons {t : Tree N} (h : (options.role t.node).passes = false)
    (before after : List (Tree N)) :
    significant options (before ++ t :: after) =
      significant options before ++ t :: significant options after := by
  rw [← significant_cons_of_not_passes h]
  exact List.filter_append ..

/-- **What is open before a node was left open by the last node that counts.** -/
theorem foldl_pairingBehind (pairing : Pairing) (before : List (Tree N)) :
    before.foldl (Source.pairingBehind options) pairing =
      match (significant options before).getLast? with
      | some t => (options.role t.node).leaves
      | none => pairing := by
  induction before generalizing pairing with
  | nil => rfl
  | cons t rest ih =>
    rw [List.foldl_cons, ih, Source.pairingBehind, Pairing.behind]
    rcases hpasses : (options.role t.node).passes with _ | _
    · rw [significant_cons_of_not_passes hpasses, List.getLast?_cons]
      rcases (significant options rest).getLast? with _ | last <;> rfl
    · rw [significant_cons_of_passes hpasses]
      rfl

/-- The directives that leave something open for companions. -/
def openers : Pairing → List Keyword
  | .closed => []
  | .conditional => [.conditional, .elseIf]
  | .loop => [.loop]

theorem leaves_eq_iff {pairing : Pairing} (hopen : pairing ≠ .closed) {t : Tree N} :
    (options.role t.node).leaves = pairing ↔ Is options t (openers pairing) := by
  constructor
  · rintro rfl
    rcases role : options.role t.node with content | _ | ⟨tag, _ | keyword⟩ <;> rw [role] at hopen
    · exact absurd rfl hopen
    · exact absurd rfl hopen
    · exact absurd rfl hopen
    · rcases keyword with _ | _ | _ | _ | _ | _ | _ | _ | _ | _
      case conditional | elseIf | loop =>
        exact ⟨tag, _, by simp [openers, Role.leaves], role⟩
      all_goals exact absurd rfl hopen
  · rintro ⟨tag, keyword, hkeyword, role⟩
    rw [role]
    rcases pairing with _ | _ | _
    · exact absurd rfl hopen
    · rcases List.mem_cons.1 hkeyword with rfl | hkeyword
      · rfl
      · obtain rfl := List.mem_singleton.1 hkeyword
        rfl
    · obtain rfl := List.mem_singleton.1 hkeyword
      rfl

/-- **Something is open just behind a directive that leaves it open.** -/
theorem open_iff {pairing : Pairing} (hopen : pairing ≠ .closed) (before : List (Tree N)) :
    before.foldl (Source.pairingBehind options) .closed = pairing ↔
      Follows options (significant options before) (openers pairing) := by
  rw [foldl_pairingBehind]
  constructor
  · intro h
    split at h
    · next t hlast => exact ⟨t, hlast, (leaves_eq_iff hopen).1 h⟩
    · exact absurd h.symm hopen
  · rintro ⟨t, hlast, his⟩
    rw [hlast]
    exact (leaves_eq_iff hopen).2 his

/-! ## Attributes of directives -/

theorem finiteNumeral_iff {raw : String} :
    FiniteNumeral raw ↔ ∃ x, (Double.read? (Text.trim raw.toList)).bind Double.finite? = some x := by
  refine ⟨?_, ?_⟩
  · rintro ⟨d, x, hspells, hfinite⟩
    refine ⟨x, ?_⟩
    rw [Double.read?, Decimal.read?_eq_some.2 hspells, Option.map_some, Option.bind_some, hfinite]
    rfl
  · rintro ⟨x, hx⟩
    obtain ⟨y, hy, hfinite⟩ := Option.bind_eq_some_iff.1 hx
    obtain ⟨d, hd, rfl⟩ := Option.map_eq_some_iff.1 hy
    refine ⟨d, x, Decimal.read?_eq_some.1 hd, ?_⟩
    rcases htoDouble : d.toDouble with z | _ | _
    · rw [htoDouble] at hfinite
      exact congrArg Double.finite (Option.some.inj hfinite)
    · rw [htoDouble] at hfinite
      exact nomatch hfinite
    · rw [htoDouble] at hfinite
      exact nomatch hfinite

variable {node : N} {tag name : String}

theorem check_requiredAttribute :
    (requiredAttribute node tag name).check =
      if Host.hasAttribute node name then .ok () else .error (.missingAttribute tag name) := by
  rw [requiredAttribute, Host.hasAttribute]
  rcases Host.attribute? node name with _ | value <;> rfl

theorem check_readCondition :
    (readCondition node tag).check =
      if Host.hasAttribute node "test" then .ok () else .error (.missingAttribute tag "test") := by
  rw [readCondition, Except.check_map, check_requiredAttribute]

/-- The checks of an attribute that has to be a finite number if it is there. -/
theorem numberAttribute_spec (node : N) (tag name : String) (absent : Double) :
    ((∃ x, numberAttribute node tag name absent = .ok x) ∧
        ∀ raw, Host.attribute? node name = some raw → FiniteNumeral raw) ∨
      ∃ raw, Host.attribute? node name = some raw ∧ ¬ FiniteNumeral raw ∧
        numberAttribute node tag name absent = .error (.invalidAttribute tag name raw) := by
  rw [numberAttribute]
  rcases Host.attribute? node name with _ | raw
  · exact .inl ⟨⟨absent, rfl⟩, fun raw h => nomatch h⟩
  · rcases hread : (Double.read? (Text.trim raw.toList)).bind Double.finite? with _ | x
    · refine .inr ⟨raw, rfl, fun hnumeral => ?_, by simp only [hread]⟩
      obtain ⟨x, hx⟩ := finiteNumeral_iff.1 hnumeral
      exact nomatch hread.symm.trans hx
    · refine .inl ⟨⟨.finite x, by simp only [hread]⟩, fun raw' hraw => ?_⟩
      obtain rfl := Option.some.inj hraw
      exact finiteNumeral_iff.2 ⟨x, hread⟩

/-- What a counter's numbers have to keep to. -/
def Counters (node : N) : Prop :=
  Host.hasAttribute node "index" = true → ∀ name ∈ ["index-start", "index-step"], ∀ raw,
    Host.attribute? node name = some raw → FiniteNumeral raw

/-- A number of a counter that is none, and the error that says so. -/
def BadCounter (node : N) (tag : String) (e : TemplateError) : Prop :=
  Host.hasAttribute node "index" = true ∧ ∃ name ∈ ["index-start", "index-step"], ∃ raw,
    Host.attribute? node name = some raw ∧ ¬ FiniteNumeral raw ∧ e = .invalidAttribute tag name raw

theorem readCounter_spec (node : N) (tag : String) :
    ((∃ counter?, readCounter node tag = .ok counter?) ∧ Counters node) ∨
      ∃ e, readCounter node tag = .error e ∧ BadCounter node tag e := by
  rw [readCounter, Counters]
  rcases hindex : Host.attribute? node "index" with _ | index
  · refine .inl ⟨⟨none, rfl⟩, fun h => ?_⟩
    rw [Host.hasAttribute, hindex] at h
    exact nomatch h
  · have hpresent : Host.hasAttribute node "index" = true := by rw [Host.hasAttribute, hindex]; rfl
    rcases numberAttribute_spec node tag "index-start" (.ofInt 0) with
      ⟨⟨start, hstart⟩, hfinite⟩ | ⟨raw, hraw, hbad, hstart⟩
    · rcases numberAttribute_spec node tag "index-step" (.ofInt 1) with
        ⟨⟨step, hstep⟩, hfinite'⟩ | ⟨raw, hraw, hbad, hstep⟩
      · refine .inl ⟨⟨some ⟨index, start, step⟩, ?_⟩, fun _ name hname raw hraw => ?_⟩
        · simp only [hstart, hstep]
          rfl
        · rcases List.mem_cons.1 hname with rfl | hname
          · exact hfinite raw hraw
          · obtain rfl := List.mem_singleton.1 hname
            exact hfinite' raw hraw
      · refine .inr ⟨_, ?_, hpresent, _, .tail _ (.head _), raw, hraw, hbad, rfl⟩
        simp only [hstart, hstep]
        rfl
    · refine .inr ⟨_, ?_, hpresent, _, .head _, raw, hraw, hbad, rfl⟩
      simp only [hstart]
      rfl

theorem readLoop_spec (node : N) (tag : String) :
    ((readLoop node tag).check = .ok () ∧ (∀ name ∈ required .loop, Host.hasAttribute node name = true) ∧
        Counters node) ∨
      (∃ name ∈ required .loop, Host.hasAttribute node name = false ∧
        (readLoop node tag).check = .error (.missingAttribute tag name)) ∨
      ∃ e, (readLoop node tag).check = .error e ∧ BadCounter node tag e := by
  rw [readLoop, requiredAttribute, requiredAttribute, required]
  rcases hin : Host.attribute? node "in" with _ | iterable
  · exact .inr (.inl ⟨"in", .head _, by rw [Host.hasAttribute, hin]; rfl, rfl⟩)
  · rcases has : Host.attribute? node "as" with _ | valueName
    · exact .inr (.inl ⟨"as", .tail _ (.head _), by rw [Host.hasAttribute, has]; rfl, rfl⟩)
    · rcases readCounter_spec node tag with ⟨⟨counter?, hcounter⟩, hcounters⟩ | ⟨e, hcounter, hbad⟩
      · refine .inl ⟨by rw [hcounter]; rfl, fun name hname => ?_, hcounters⟩
        rcases List.mem_cons.1 hname with rfl | hname
        · rw [Host.hasAttribute, hin]
          rfl
        · obtain rfl := List.mem_singleton.1 hname
          rw [Host.hasAttribute, has]
          rfl
      · exact .inr (.inr ⟨e, by rw [hcounter]; rfl, hbad⟩)

/-! ## Checks and rules -/

/-- The rules for a node among siblings, taken by itself. -/
structure Own (options : Options) (node : N) : Prop where
  attributes : ∀ tag keyword, options.role node = .directive tag (some keyword) →
    ∀ name ∈ required keyword, Host.hasAttribute node name = true
  counters : ∀ tag, options.role node = .directive tag (some .loop) → Counters node
  noCase : ∀ tag keyword, keyword ∈ [Keyword.case, .caseDefault] →
    options.role node ≠ .directive tag (some keyword)
  known : ∀ tag, options.role node ≠ .directive tag none

/-- Texts and elements keep the rules. -/
theorem Own.of_ne_directive {node : N} (h : ∀ tag keyword?, options.role node ≠ .directive tag keyword?) :
    Own options node where
  attributes tag keyword role := absurd role (h tag keyword)
  counters tag role := absurd role (h tag _)
  noCase tag keyword _ := h tag keyword
  known tag := h tag none

theorem Own.of_keyword {node : N} {tag : String} {keyword : Keyword}
    (role : options.role node = .directive tag (some keyword))
    (hattributes : ∀ name ∈ required keyword, Host.hasAttribute node name = true)
    (hcounters : keyword = .loop → Counters node) (hnoCase : keyword ∉ [Keyword.case, .caseDefault]) :
    Own options node where
  attributes tag' keyword' role' := by
    obtain ⟨-, hkeyword⟩ := Role.directive.inj (role.symm.trans role')
    exact Option.some.inj hkeyword ▸ hattributes
  counters tag' role' := by
    obtain ⟨-, hkeyword⟩ := Role.directive.inj (role.symm.trans role')
    exact hcounters (Option.some.inj hkeyword)
  noCase tag' keyword' hkeyword' role' := by
    obtain ⟨-, hkeyword⟩ := Role.directive.inj (role.symm.trans role')
    exact hnoCase (Option.some.inj hkeyword ▸ hkeyword')
  known tag' role' := by
    obtain ⟨-, hkeyword⟩ := Role.directive.inj (role.symm.trans role')
    exact nomatch hkeyword

/-- The check of a directive that needs one attribute. -/
theorem check_attribute_spec (place : Place) {ts : List (Tree N)} {t : Tree N} {tag name : String}
    {keyword : Keyword} (mem : t ∈ ts) (role : options.role t.node = .directive tag (some keyword))
    (hrequired : required keyword = [name]) :
    ((if Host.hasAttribute t.node name then .ok () else .error (.missingAttribute tag name)) =
          (.ok () : Except TemplateError Unit) ∧
        ∀ name ∈ required keyword, Host.hasAttribute t.node name = true) ∨
      ∃ e, (if Host.hasAttribute t.node name then .ok () else .error (.missingAttribute tag name)) =
          (.error e : Except TemplateError Unit) ∧ Breach options place ts e := by
  rcases hname : Host.hasAttribute t.node name with _ | _
  · exact .inr ⟨_, rfl, .attribute mem role (hrequired ▸ .head _) hname⟩
  · refine .inl ⟨rfl, fun name' hname' => ?_⟩
    rw [hrequired] at hname'
    exact List.mem_singleton.1 hname' ▸ hname

/-- **What a node says by itself is checked against the rules for it.** -/
theorem checkOwn_spec {ts : List (Tree N)} {t : Tree N} (mem : t ∈ ts) :
    (Source.checkOwn options t.node = .ok () ∧ Own options t.node) ∨
      ∃ e, Source.checkOwn options t.node = .error e ∧ Breach options .siblings ts e := by
  unfold Source.checkOwn
  rcases role : options.role t.node with content | _ | ⟨tag, _ | keyword⟩
  · exact .inl ⟨rfl, .of_ne_directive fun _ _ h => nomatch role.symm.trans h⟩
  · exact .inl ⟨rfl, .of_ne_directive fun _ _ h => nomatch role.symm.trans h⟩
  · exact .inr ⟨_, rfl, .unknown mem role⟩
  · have hfree : required keyword = [] → keyword ≠ .loop → keyword ∉ [Keyword.case, .caseDefault] →
        Own options t.node := fun hrequired hloop hnoCase =>
      .of_keyword role (fun name hname => by rw [hrequired] at hname; exact nomatch hname)
        (fun h => absurd h hloop) hnoCase
    rcases keyword with _ | _ | _ | _ | _ | _ | _ | _ | _ | _
    case conditional | elseIf =>
      simp only [check_readCondition]
      rcases check_attribute_spec .siblings mem role rfl with ⟨hok, hattributes⟩ | herror
      · exact .inl ⟨hok, .of_keyword role hattributes (fun h => nomatch h) (by decide)⟩
      · exact .inr herror
    case loop =>
      rcases readLoop_spec t.node tag with ⟨hok, hattributes, hcounters⟩ | ⟨name, hname, habsent, he⟩
        | ⟨e, he, hindex, name, hname, raw, hraw, hbad, rfl⟩
      · exact .inl ⟨hok, .of_keyword role hattributes (fun _ => hcounters) (by decide)⟩
      · exact .inr ⟨_, he, .attribute mem role hname habsent⟩
      · exact .inr ⟨_, he, .counter mem role hindex hname hraw hbad⟩
    case switch =>
      simp only [check_requiredAttribute]
      rcases check_attribute_spec .siblings mem role rfl with ⟨hok, hattributes⟩ | herror
      · exact .inl ⟨hok, .of_keyword role hattributes (fun h => nomatch h) (by decide)⟩
      · exact .inr herror
    case case => exact .inr ⟨_, rfl, .outside mem role (.head _)⟩
    case caseDefault => exact .inr ⟨_, rfl, .outside mem role (.tail _ (.head _))⟩
    all_goals exact .inl ⟨rfl, hfree rfl (by decide) (by decide)⟩

/-- The rules for companions at one place among siblings. -/
structure InPlace (options : Options) (before : List (Tree N)) (t : Tree N) : Prop where
  companion : Is options t [.elseIf, .otherwise] →
    Follows options (significant options before) [.conditional, .elseIf]
  loopCompanion : Is options t [.loopElse] → Follows options (significant options before) [.loop]

theorem InPlace.of_needs_none {before : List (Tree N)} {t : Tree N}
    (h : (options.role t.node).needs? = none) : InPlace options before t := by
  refine ⟨?_, ?_⟩
  · rintro ⟨tag, keyword, hkeyword, role⟩
    rw [role] at h
    rcases List.mem_cons.1 hkeyword with rfl | hkeyword
    · exact nomatch h
    · obtain rfl := List.mem_singleton.1 hkeyword
      exact nomatch h
  · rintro ⟨tag, keyword, hkeyword, role⟩
    obtain rfl := List.mem_singleton.1 hkeyword
    rw [role] at h
    exact nomatch h

/-- **Whether a companion is in place is checked against the rules for companions.** -/
theorem checkPlace_spec {ts before after : List (Tree N)} {t : Tree N}
    (hts : ts = before ++ t :: after) :
    (Source.checkPlace options (before.foldl (Source.pairingBehind options) .closed) t.node = .ok () ∧
        InPlace options before t) ∨
      ∃ e, Source.checkPlace options (before.foldl (Source.pairingBehind options) .closed) t.node =
          .error e ∧ Breach options .siblings ts e := by
  have hsplit : (options.role t.node).passes = false →
      significant options ts = significant options before ++ t :: significant options after :=
    fun h => hts ▸ significant_append_cons h before after
  unfold Source.checkPlace
  rcases hneeds : (options.role t.node).needs? with _ | ⟨tag, expected, partner⟩
  · exact .inl ⟨rfl, .of_needs_none hneeds⟩
  · unfold checkPairing
    rcases role : options.role t.node with content | _ | ⟨tag', _ | keyword⟩
    · exact nomatch role ▸ hneeds
    · exact nomatch role ▸ hneeds
    · exact nomatch role ▸ hneeds
    · rw [role] at hneeds
      rcases keyword with _ | _ | _ | _ | _ | _ | _ | _ | _ | _
      case elseIf | otherwise =>
        obtain ⟨rfl, rfl, rfl⟩ : tag' = tag ∧ Pairing.conditional = expected ∧
            Partner.conditional = partner := by
          obtain ⟨htag, hrest⟩ := Prod.mk.inj (Option.some.inj hneeds)
          exact ⟨htag, Prod.mk.inj hrest⟩
        by_cases hopen : before.foldl (Source.pairingBehind options) .closed = .conditional
        · have hfollows := (open_iff (by decide) before).1 hopen
          refine .inl ⟨if_pos hopen, fun _ => hfollows, ?_⟩
          rintro ⟨_, keyword, hkeyword, role'⟩
          obtain rfl := List.mem_singleton.1 hkeyword
          exact nomatch role.symm.trans role'
        · refine .inr ⟨_, if_neg hopen, .companion (hsplit (by rw [role]; rfl)) role (by decide) ?_⟩
          exact fun hfollows => hopen ((open_iff (by decide) before).2 hfollows)
      case loopElse =>
        obtain ⟨rfl, rfl, rfl⟩ : tag' = tag ∧ Pairing.loop = expected ∧ Partner.loop = partner := by
          obtain ⟨htag, hrest⟩ := Prod.mk.inj (Option.some.inj hneeds)
          exact ⟨htag, Prod.mk.inj hrest⟩
        by_cases hopen : before.foldl (Source.pairingBehind options) .closed = .loop
        · have hfollows := (open_iff (by decide) before).1 hopen
          refine .inl ⟨if_pos hopen, ?_, fun _ => hfollows⟩
          rintro ⟨_, keyword, hkeyword, role'⟩
          rcases List.mem_cons.1 hkeyword with rfl | hkeyword
          · exact nomatch role.symm.trans role'
          · obtain rfl := List.mem_singleton.1 hkeyword
            exact nomatch role.symm.trans role'
        · refine .inr ⟨_, if_neg hopen, .loopCompanion (hsplit (by rw [role]; rfl)) role ?_⟩
          exact fun hfollows => hopen ((open_iff (by decide) before).2 hfollows)
      all_goals exact nomatch hneeds

theorem isDefault_iff {t : Tree N} :
    (options.role t.node).isDefault = true ↔ Is options t [.caseDefault] := by
  refine ⟨fun h => ?_, ?_⟩
  · rcases role : options.role t.node with content | _ | ⟨tag, _ | keyword⟩ <;> rw [role] at h
    · exact nomatch h
    · exact nomatch h
    · exact nomatch h
    · rcases keyword with _ | _ | _ | _ | _ | _ | _ | _ | _ | _
      case caseDefault => exact ⟨tag, _, .head _, role⟩
      all_goals exact nomatch h
  · rintro ⟨tag, keyword, hkeyword, role⟩
    obtain rfl := List.mem_singleton.1 hkeyword
    rw [role]
    rfl

/-- Whether a default came before a child of a switch. -/
theorem foldl_defaultBehind_iff (before : List (Tree N)) :
    before.foldl (Source.defaultBehind options) false = true ↔
      ∃ other ∈ significant options before, Is options other [.caseDefault] := by
  have hany : ∀ hasDefault, before.foldl (Source.defaultBehind options) hasDefault =
      (hasDefault || before.any fun t => (options.role t.node).isDefault) := by
    induction before with
    | nil => exact fun hasDefault => (Bool.or_false hasDefault).symm
    | cons t rest ih =>
      intro hasDefault
      rw [List.foldl_cons, ih, Source.defaultBehind, List.any_cons, Bool.or_assoc]
  rw [hany, Bool.false_or, List.any_eq_true]
  refine ⟨?_, ?_⟩
  · rintro ⟨t, ht, hdefault⟩
    have his := isDefault_iff.1 hdefault
    refine ⟨t, List.mem_filter.2 ⟨ht, ?_⟩, his⟩
    obtain ⟨tag, keyword, hkeyword, role⟩ := his
    obtain rfl := List.mem_singleton.1 hkeyword
    rw [role]
    rfl
  · rintro ⟨t, ht, his⟩
    exact ⟨t, (List.mem_filter.1 ht).1, isDefault_iff.2 his⟩

/-- The rules at one place among the children of a switch. -/
structure CaseRules (options : Options) (before : List (Tree N)) (t : Tree N) : Prop where
  only : (options.role t.node).passes = false → Is options t [.case, .caseDefault]
  attributes : ∀ tag keyword, options.role t.node = .directive tag (some keyword) →
    ∀ name ∈ required keyword, Host.hasAttribute t.node name = true
  oneDefault : Is options t [.caseDefault] →
    ∀ other ∈ significant options before, ¬ Is options other [.caseDefault]

/-- A directive has one keyword only. -/
theorem not_is_of_role {t : Tree N} {tag : String} {keyword : Keyword} {keywords : List Keyword}
    (role : options.role t.node = .directive tag (some keyword)) (h : keyword ∉ keywords) :
    ¬ Is options t keywords := by
  rintro ⟨tag', keyword', hkeyword', role'⟩
  obtain ⟨-, hkeyword⟩ := Role.directive.inj (role.symm.trans role')
  exact h (Option.some.inj hkeyword ▸ hkeyword')

/-- Comments and blank texts keep the rules. -/
theorem CaseRules.of_passes {before : List (Tree N)} {t : Tree N}
    (h : (options.role t.node).passes = true) : CaseRules options before t where
  only hnot := nomatch h.symm.trans hnot
  attributes tag keyword role name hname := by
    rw [role] at h
    rcases keyword with _ | _ | _ | _ | _ | _ | _ | _ | _ | _
    case comment => exact nomatch hname
    all_goals exact nomatch h
  oneDefault := by
    rintro ⟨tag, keyword, hkeyword, role⟩
    obtain rfl := List.mem_singleton.1 hkeyword
    rw [role] at h
    exact nomatch h

/-- **The children of a switch are checked against the rules for them.** -/
theorem checkCase_spec {ts before after : List (Tree N)} {t : Tree N}
    (hts : ts = before ++ t :: after) :
    (Source.checkCase options (before.foldl (Source.defaultBehind options) false) t.node = .ok () ∧
        CaseRules options before t) ∨
      ∃ e, Source.checkCase options (before.foldl (Source.defaultBehind options) false) t.node =
          .error e ∧ Breach options .cases ts e := by
  have hmem : t ∈ ts := hts ▸ List.mem_append.2 (.inr (.head _))
  have hinside : (options.role t.node).passes = false → ¬ Is options t [.case, .caseDefault] →
      Breach options .cases ts (.unexpectedContent (displayTag options t.node) .insideSwitch) :=
    fun hpasses => .inside (List.mem_filter.2 ⟨hmem, by rw [hpasses]; rfl⟩)
  unfold Source.checkCase
  unfold displayTag at hinside
  rcases role : options.role t.node with content | _ | ⟨tag, _ | keyword⟩
  · rw [role] at hinside
    rcases hblank : Text.blank content with _ | _
    · refine .inr ⟨_, by simp only [hblank, Bool.false_eq_true, if_false], hinside hblank ?_⟩
      rintro ⟨_, _, _, role'⟩
      exact nomatch role.symm.trans role'
    · exact .inl ⟨by simp only [hblank, if_true], .of_passes (by rw [role]; exact hblank)⟩
  · rw [role] at hinside
    refine .inr ⟨_, rfl, hinside rfl ?_⟩
    rintro ⟨_, _, _, role'⟩
    exact nomatch role.symm.trans role'
  · rw [role] at hinside
    refine .inr ⟨_, rfl, hinside rfl ?_⟩
    rintro ⟨_, _, _, role'⟩
    exact nomatch role.symm.trans role'
  · have hattributes : (∀ name ∈ required keyword, Host.hasAttribute t.node name = true) →
        ∀ tag' keyword', options.role t.node = .directive tag' (some keyword') →
          ∀ name ∈ required keyword', Host.hasAttribute t.node name = true := by
      intro h tag' keyword' role'
      obtain ⟨-, hkeyword⟩ := Role.directive.inj (role.symm.trans role')
      exact Option.some.inj hkeyword ▸ h
    rw [role] at hinside
    rcases keyword with _ | _ | _ | _ | _ | _ | _ | _ | _ | _
    case case =>
      simp only [check_requiredAttribute]
      rcases check_attribute_spec .cases hmem role rfl with ⟨hok, hpresent⟩ | herror
      · refine .inl ⟨hok, fun _ => ⟨tag, _, .head _, role⟩, hattributes hpresent, fun his => ?_⟩
        exact absurd his (not_is_of_role role (by decide))
      · exact .inr herror
    case caseDefault =>
      rcases hbefore : before.foldl (Source.defaultBehind options) false with _ | _
      · refine .inl ⟨rfl, fun _ => ⟨tag, _, .tail _ (.head _), role⟩, ?_, fun _ other hother his => ?_⟩
        · exact hattributes fun name hname => nomatch hname
        · have htrue := (foldl_defaultBehind_iff before).2 ⟨other, hother, his⟩
          exact nomatch hbefore.symm.trans htrue
      · obtain ⟨other, hother, his⟩ := (foldl_defaultBehind_iff before).1 hbefore
        have hsplit : significant options ts =
            significant options before ++ t :: significant options after :=
          hts ▸ significant_append_cons (by rw [role]; rfl) before after
        exact .inr ⟨_, rfl, .twice hsplit role hother his⟩
    case comment => exact .inl ⟨rfl, .of_passes (by rw [role]; rfl)⟩
    all_goals exact .inr ⟨_, rfl, hinside rfl (not_is_of_role role (by decide))⟩

end Grammar

end Stencil
