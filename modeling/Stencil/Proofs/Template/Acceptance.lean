import Stencil.Proofs.Template.Rules

/-!
# Proofs/Template/Acceptance — which templates can be compiled

A template can be compiled just if every list that is reached in it keeps the grammar
(`Template.compile_ok_iff_keeps`), and the error of one that cannot names a breach in one of these lists.
-/

namespace Stencil

variable {N : Type} [Host N] {options : Options}

namespace Grammar

/-! ## One list -/

/-- A check of siblings in three parts. -/
theorem checkSibling_eq_ok {pairing : Pairing} {t : Tree N} :
    Source.checkSibling options pairing t = .ok () ↔
      Source.checkOwn options t.node = .ok () ∧ Source.checkBelow options t = .ok () ∧
        Source.checkPlace options pairing t.node = .ok () := by
  unfold Source.checkSibling
  rcases Source.checkOwn options t.node with e | _
  · exact ⟨fun h => (nomatch h), fun h => (nomatch h.1)⟩
  · rcases Source.checkBelow options t with e | _
    · exact ⟨fun h => (nomatch h), fun h => (nomatch h.2.1)⟩
    · exact ⟨fun h => ⟨rfl, rfl, h⟩, fun h => h.2.2⟩

theorem checkSibling_eq_error {pairing : Pairing} {t : Tree N} {e : TemplateError}
    (h : Source.checkSibling options pairing t = .error e) :
    Source.checkOwn options t.node = .error e ∨ Source.checkBelow options t = .error e ∨
      Source.checkPlace options pairing t.node = .error e := by
  rw [Source.checkSibling] at h
  rcases hown : Source.checkOwn options t.node with e' | _ <;> rw [hown] at h
  · exact .inl h
  · rcases hbelow : Source.checkBelow options t with e' | _ <;> rw [hbelow] at h
    · exact .inr (.inl h)
    · exact .inr (.inr h)

/-- **Siblings that pass their checks keep the grammar**, and all below them passes. -/
theorem siblings_of_checkAs {ts : List (Tree N)}
    (h : Source.checkAs options .siblings ts = .ok ()) :
    Siblings options ts ∧ ∀ t ∈ ts, Source.checkBelow options t = .ok () := by
  rw [Source.checkAs_siblings, Except.checkAll_eq_ok] at h
  have hrules : ∀ before t after, ts = before ++ t :: after →
      Own options t.node ∧ InPlace options before t ∧ Source.checkBelow options t = .ok () := by
    intro before t after hts
    obtain ⟨hown, hbelow, hplace⟩ := checkSibling_eq_ok.1 (h before t after hts)
    have hmem : t ∈ ts := hts ▸ List.mem_append.2 (.inr (.head _))
    refine ⟨?_, ?_, hbelow⟩
    · rcases checkOwn_spec hmem with ⟨-, hrules⟩ | ⟨e, he, -⟩
      · exact hrules
      · exact nomatch hown.symm.trans he
    · rcases checkPlace_spec hts with ⟨-, hrules⟩ | ⟨e, he, -⟩
      · exact hrules
      · exact nomatch hplace.symm.trans he
  have hown : ∀ t ∈ ts, Own options t.node := by
    intro t ht
    obtain ⟨before, after, hts⟩ := List.append_of_mem ht
    exact (hrules before t after hts).1
  refine ⟨?_, fun t ht => ?_⟩
  · refine ⟨fun before t after hsplit => ?_, fun before t after hsplit => ?_,
      fun t ht => (hown t ht).attributes, fun t ht => ?_, fun t ht => ?_, fun t ht => (hown t ht).known⟩
    · obtain ⟨before', after', hts, rfl⟩ := significant_split hsplit
      exact (hrules before' t after' hts).2.1.companion
    · obtain ⟨before', after', hts, rfl⟩ := significant_split hsplit
      exact (hrules before' t after' hts).2.1.loopCompanion
    · rintro ⟨tag, keyword, hkeyword, role⟩
      obtain rfl := List.mem_singleton.1 hkeyword
      exact (hown t ht).counters tag role
    · rintro ⟨tag, keyword, hkeyword, role⟩
      exact (hown t ht).noCase tag keyword hkeyword role
  · obtain ⟨before, after, hts⟩ := List.append_of_mem ht
    exact (hrules before t after hts).2.2

/-- **Children of a switch that pass their checks keep the grammar**, and all below them passes. -/
theorem cases_of_checkAs {ts : List (Tree N)} (h : Source.checkAs options .cases ts = .ok ()) :
    Cases options ts ∧ ∀ t ∈ ts, Source.checkBelow options t = .ok () := by
  rw [Source.checkAs_cases, Except.checkAll_eq_ok] at h
  have hrules : ∀ before t after, ts = before ++ t :: after →
      CaseRules options before t ∧ Source.checkBelow options t = .ok () := by
    intro before t after hts
    have hcase := h before t after hts
    unfold Source.checkCaseTree at hcase
    rcases checkCase_spec hts with ⟨hok, hrules⟩ | ⟨e, he, -⟩
    · rw [hok] at hcase
      exact ⟨hrules, hcase⟩
    · rw [he] at hcase
      exact nomatch hcase
  refine ⟨⟨fun t ht => ?_, fun t ht => ?_, fun before t after hsplit => ?_⟩, fun t ht => ?_⟩
  · obtain ⟨ht, hpasses⟩ := List.mem_filter.1 ht
    obtain ⟨before, after, hts⟩ := List.append_of_mem ht
    exact (hrules before t after hts).1.only (Bool.not_eq_true' _ ▸ hpasses)
  · obtain ⟨before, after, hts⟩ := List.append_of_mem ht
    exact (hrules before t after hts).1.attributes
  · obtain ⟨before', after', hts, rfl⟩ := significant_split hsplit
    exact (hrules before' t after' hts).1.oneDefault
  · obtain ⟨before, after, hts⟩ := List.append_of_mem ht
    exact (hrules before t after hts).2

theorem keeps_of_checkAs : ∀ {place : Place} {ts : List (Tree N)},
    Source.checkAs options place ts = .ok () →
      Keeps options place ts ∧ ∀ t ∈ ts, Source.checkBelow options t = .ok ()
  | .siblings, _, h => siblings_of_checkAs h
  | .cases, _, h => cases_of_checkAs h

/-- **The error of a list is a breach in it**, or the error of what is below one of its members. -/
theorem breach_of_checkAs {e : TemplateError} : ∀ {place : Place} {ts : List (Tree N)},
    Source.checkAs options place ts = .error e →
      Breach options place ts e ∨ ∃ t ∈ ts, Source.checkBelow options t = .error e
  | .siblings, ts, h => by
      rw [Source.checkAs_siblings] at h
      obtain ⟨before, t, after, hts, ht⟩ := Except.exists_of_checkAll_eq_error h
      have hmem : t ∈ ts := hts ▸ List.mem_append.2 (.inr (.head _))
      rcases checkSibling_eq_error ht with hown | hbelow | hplace
      · rcases checkOwn_spec hmem with ⟨hok, -⟩ | ⟨e', he, hbreach⟩
        · exact nomatch hok.symm.trans hown
        · exact .inl (Except.error.inj (he.symm.trans hown) ▸ hbreach)
      · exact .inr ⟨t, hmem, hbelow⟩
      · rcases checkPlace_spec hts with ⟨hok, -⟩ | ⟨e', he, hbreach⟩
        · exact nomatch hok.symm.trans hplace
        · exact .inl (Except.error.inj (he.symm.trans hplace) ▸ hbreach)
  | .cases, ts, h => by
      rw [Source.checkAs_cases] at h
      obtain ⟨before, t, after, hts, ht⟩ := Except.exists_of_checkAll_eq_error h
      have hmem : t ∈ ts := hts ▸ List.mem_append.2 (.inr (.head _))
      unfold Source.checkCaseTree at ht
      rcases checkCase_spec hts with ⟨hok, -⟩ | ⟨e', he, hbreach⟩
      · rw [hok] at ht
        exact .inr ⟨t, hmem, ht⟩
      · rw [he] at ht
        exact .inl (Except.error.inj ht ▸ hbreach)

/-! ## All lists that are reached -/

theorem keeps_of_reached {place place' : Place} {ts us : List (Tree N)}
    (hreached : Tree.Reached options place ts place' us)
    (h : Source.checkAs options place ts = .ok ()) : Keeps options place' us := by
  induction hreached with
  | here => exact (keeps_of_checkAs h).1
  | child mem role inside ih =>
    have hbelow := (keeps_of_checkAs h).2 _ mem
    rw [Source.checkBelow, role] at hbelow
    exact ih hbelow

/-- A breach in a list that is reached. -/
def BreachBelow (options : Options) (place : Place) (ts : List (Tree N)) (e : TemplateError) : Prop :=
  ∃ place' us, Tree.Reached options place ts place' us ∧ Breach options place' us e

/-- An error of a list is a breach if the errors below its members are. -/
theorem breachBelow_of_checkAs {place : Place} {ts : List (Tree N)} {e : TemplateError}
    (hbelow : ∀ t ∈ ts, ∀ inner, (options.role t.node).below? = some inner →
      Source.checkAs options inner t.children = .error e → BreachBelow options inner t.children e)
    (h : Source.checkAs options place ts = .error e) : BreachBelow options place ts e := by
  rcases breach_of_checkAs h with hbreach | ⟨t, ht, herror⟩
  · exact ⟨place, ts, .here, hbreach⟩
  · unfold Source.checkBelow at herror
    rcases role : (options.role t.node).below? with _ | inner
    · rw [role] at herror
      exact nomatch herror
    · rw [role] at herror
      obtain ⟨place', us, hreached, hbreach⟩ := hbelow t ht inner role herror
      exact ⟨place', us, .child ht role hreached, hbreach⟩

theorem breachBelow_children (e : TemplateError) : ∀ (t : Tree N) (inner : Place),
    Source.checkAs options inner t.children = .error e → BreachBelow options inner t.children e :=
  Tree.induction fun _ ih _ h => breachBelow_of_checkAs (fun c hc inner _ => ih c hc inner) h

theorem breachBelow_of_error {place : Place} {ts : List (Tree N)} {e : TemplateError}
    (h : Source.checkAs options place ts = .error e) : BreachBelow options place ts e :=
  breachBelow_of_checkAs (fun t _ inner _ => breachBelow_children e t inner) h

end Grammar

/-- **A template can be compiled just if it keeps the grammar in every list that is reached**, and the
error of one that cannot names a breach in one of these lists. -/
theorem Template.compile_ok_iff_keeps (options : Options) (nodes : List N) :
    ((∃ template, Template.compile options nodes = .ok template) ↔
      ∀ place ts, Tree.Reached options .siblings (nodes.map Host.tree) place ts →
        Grammar.Keeps options place ts) ∧
    ∀ e, Template.compile options nodes = .error e →
      ∃ place ts, Tree.Reached options .siblings (nodes.map Host.tree) place ts ∧
        Grammar.Breach options place ts e := by
  have hbreach : ∀ e, Template.compile options nodes = .error e →
      Grammar.BreachBelow options .siblings (nodes.map Host.tree) e := by
    intro e h
    rw [← Except.check_eq_error, Source.check_compile] at h
    exact Grammar.breachBelow_of_error h
  refine ⟨⟨?_, fun h => ?_⟩, hbreach⟩
  · intro hok place ts hreached
    rw [← Except.check_eq_ok, Source.check_compile] at hok
    exact Grammar.keeps_of_reached hreached hok
  · rcases hcompile : Template.compile options nodes with e | template
    · obtain ⟨place, ts, hreached, hbreach⟩ := hbreach e hcompile
      exact absurd (h place ts hreached) hbreach.not_keeps
    · exact ⟨template, rfl⟩

end Stencil
