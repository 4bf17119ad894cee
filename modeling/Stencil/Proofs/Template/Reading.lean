import Stencil.Proofs.Except
import Stencil.Template.Source

/-!
# Proofs/Template/Reading — a reading that succeeds, step by step

`SiblingsRead` and `CasesRead` are the ways in which siblings and the children of a switch are read
without an error, one rule for each role of the next node.  A body is what `readBody` makes of a tree,
so a proof about readings is an induction on one of them inside an induction on trees
(`Tree.induction`).
-/

namespace Stencil

/-! ## Trees -/

namespace Tree

variable {N : Type}

/-- The trees below the top of a tree. -/
def children : Tree N → List (Tree N)
  | mk _ children => children

@[simp] theorem node_mk (node : N) (below : List (Tree N)) : (mk node below).node = node := rfl

@[simp] theorem children_mk (node : N) (below : List (Tree N)) : (mk node below).children = below :=
  rfl

/-- **Induction on trees**: from the trees below to the tree. -/
theorem induction {motive : Tree N → Prop}
    (step : ∀ t, (∀ c ∈ t.children, motive c) → motive t) : ∀ t, motive t
  | mk node below => step (mk node below) fun c _ => induction step c

end Tree

/-! ## Siblings between a directive and its companions -/

namespace Role

/-- Whether a directive stays open for companions past a node: a comment or a blank text. -/
def passes : Role → Bool
  | .text content => Text.blank content
  | .directive _ (some .comment) => true
  | _ => false

/-- Whether a directive before a node gets no companion behind it: the node is neither passed nor a
companion itself. -/
def ends : Role → Bool
  | .text content => !Text.blank content
  | .element => true
  | .directive _ (some .conditional) => true
  | .directive _ (some .loop) => true
  | .directive _ (some .binding) => true
  | .directive _ (some .switch) => true
  | _ => false

end Role

namespace Source

variable {N : Type} [Host N] {options : Options}

theorem readBody_eq (t : Tree N) :
    readBody options t = (readSiblings options .closed t.children).map Prod.snd := by
  obtain ⟨node, below⟩ := t
  rw [readBody, Tree.children_mk]

theorem readSwitch_eq (t : Tree N) :
    readSwitch options t = readCases options false t.children := by
  obtain ⟨node, below⟩ := t
  rw [readSwitch, Tree.children_mk]

theorem checkPairing_eq_ok {pairing expected : Pairing} {tag : String} {partner : Partner} {u : Unit}
    (h : checkPairing pairing expected tag partner = .ok u) : pairing = expected := by
  rw [checkPairing] at h
  split at h
  · next hsame => exact hsame
  · cases h

/-! ## Siblings -/

/-- Siblings that are read without an error, with the companions and items read. -/
inductive SiblingsRead (options : Options) :
    Pairing → List (Tree N) → Companions (Source N) → List (Source N) → Prop
  | nil {pairing} : SiblingsRead options pairing [] .none []
  | text {pairing t rest content companions items}
      (role : options.role t.node = .text content)
      (behind : SiblingsRead options (if Text.blank content then pairing else .closed) rest
        companions items) :
      SiblingsRead options pairing (t :: rest) companions (.text t.node content :: items)
  | element {pairing t rest inside companions items}
      (role : options.role t.node = .element)
      (body : readBody options t = .ok inside)
      (behind : SiblingsRead options .closed rest companions items) :
      SiblingsRead options pairing (t :: rest) companions (.element t.node inside :: items)
  | conditional {pairing t rest tag condition inside own items}
      (role : options.role t.node = .directive tag (some .conditional))
      (reads : readCondition t.node tag = .ok condition)
      (body : readBody options t = .ok inside)
      (behind : SiblingsRead options .conditional rest own items) :
      SiblingsRead options pairing (t :: rest) .none
        (.flow (.conditional condition inside own.elseIfs own.otherwise?) :: items)
  | elseIf {t rest tag condition inside companions items}
      (role : options.role t.node = .directive tag (some .elseIf))
      (reads : readCondition t.node tag = .ok condition)
      (body : readBody options t = .ok inside)
      (behind : SiblingsRead options .conditional rest companions items) :
      SiblingsRead options .conditional (t :: rest) (companions.cons ⟨condition, inside⟩) items
  | otherwise {t rest tag inside companions items}
      (role : options.role t.node = .directive tag (some .otherwise))
      (body : readBody options t = .ok inside)
      (behind : SiblingsRead options .closed rest companions items) :
      SiblingsRead options .conditional (t :: rest) (.otherwise inside) items
  | loop {pairing t rest tag loop inside own items}
      (role : options.role t.node = .directive tag (some .loop))
      (reads : readLoop t.node tag = .ok loop)
      (body : readBody options t = .ok inside)
      (behind : SiblingsRead options .loop rest own items) :
      SiblingsRead options pairing (t :: rest) .none
        (.flow (.loop loop inside own.otherwise?) :: items)
  | loopElse {t rest tag inside companions items}
      (role : options.role t.node = .directive tag (some .loopElse))
      (body : readBody options t = .ok inside)
      (behind : SiblingsRead options .closed rest companions items) :
      SiblingsRead options .loop (t :: rest) (.otherwise inside) items
  | binding {pairing t rest tag inside companions items}
      (role : options.role t.node = .directive tag (some .binding))
      (body : readBody options t = .ok inside)
      (behind : SiblingsRead options .closed rest companions items) :
      SiblingsRead options pairing (t :: rest) companions
        (.flow (.binding (readBindings t.node) inside) :: items)
  | switch {pairing t rest tag subject cases otherwise? companions items}
      (role : options.role t.node = .directive tag (some .switch))
      (reads : requiredAttribute t.node tag "value" = .ok subject)
      (body : readSwitch options t = .ok (cases, otherwise?))
      (behind : SiblingsRead options .closed rest companions items) :
      SiblingsRead options pairing (t :: rest) companions
        (.flow (.switch ⟨subject⟩ cases otherwise?) :: items)
  | comment {pairing t rest tag companions items}
      (role : options.role t.node = .directive tag (some .comment))
      (behind : SiblingsRead options pairing rest companions items) :
      SiblingsRead options pairing (t :: rest) companions items

/-- **Every reading of siblings without an error is one of `SiblingsRead`.** -/
theorem siblingsRead_of_eq_ok : ∀ {ts : List (Tree N)} {pairing : Pairing}
    {companions : Companions (Source N)} {items : List (Source N)},
    readSiblings options pairing ts = .ok (companions, items) →
      SiblingsRead options pairing ts companions items
  | [], _, _, _, h => by
      rw [readSiblings] at h
      cases h
      exact .nil
  | t :: rest, pairing, companions, items, h => by
      rw [readSiblings] at h
      rcases role : options.role t.node with content | _ | ⟨tag, _ | keyword⟩
      · simp only [role] at h
        obtain ⟨⟨_, _⟩, hrest, h⟩ := Except.ok_of_bind h
        cases h
        exact .text role (siblingsRead_of_eq_ok hrest)
      · simp only [role] at h
        obtain ⟨_, body, h⟩ := Except.ok_of_bind h
        obtain ⟨⟨_, _⟩, hrest, h⟩ := Except.ok_of_bind h
        cases h
        exact .element role body (siblingsRead_of_eq_ok hrest)
      · simp only [role] at h
        cases h
      · rcases keyword with _ | _ | _ | _ | _ | _ | _ | _ | _ | _
        all_goals simp only [role] at h
        · obtain ⟨_, reads, h⟩ := Except.ok_of_bind h
          obtain ⟨_, body, h⟩ := Except.ok_of_bind h
          obtain ⟨⟨_, _⟩, hrest, h⟩ := Except.ok_of_bind h
          cases h
          exact .conditional role reads body (siblingsRead_of_eq_ok hrest)
        · obtain ⟨_, reads, h⟩ := Except.ok_of_bind h
          obtain ⟨_, body, h⟩ := Except.ok_of_bind h
          obtain ⟨_, inPlace, h⟩ := Except.ok_of_bind h
          obtain ⟨⟨_, _⟩, hrest, h⟩ := Except.ok_of_bind h
          cases h
          obtain rfl := checkPairing_eq_ok inPlace
          exact .elseIf role reads body (siblingsRead_of_eq_ok hrest)
        · obtain ⟨_, body, h⟩ := Except.ok_of_bind h
          obtain ⟨_, inPlace, h⟩ := Except.ok_of_bind h
          obtain ⟨⟨_, _⟩, hrest, h⟩ := Except.ok_of_bind h
          cases h
          obtain rfl := checkPairing_eq_ok inPlace
          exact .otherwise role body (siblingsRead_of_eq_ok hrest)
        · obtain ⟨_, reads, h⟩ := Except.ok_of_bind h
          obtain ⟨_, body, h⟩ := Except.ok_of_bind h
          obtain ⟨⟨_, _⟩, hrest, h⟩ := Except.ok_of_bind h
          cases h
          exact .loop role reads body (siblingsRead_of_eq_ok hrest)
        · obtain ⟨_, body, h⟩ := Except.ok_of_bind h
          obtain ⟨_, inPlace, h⟩ := Except.ok_of_bind h
          obtain ⟨⟨_, _⟩, hrest, h⟩ := Except.ok_of_bind h
          cases h
          obtain rfl := checkPairing_eq_ok inPlace
          exact .loopElse role body (siblingsRead_of_eq_ok hrest)
        · obtain ⟨_, body, h⟩ := Except.ok_of_bind h
          obtain ⟨⟨_, _⟩, hrest, h⟩ := Except.ok_of_bind h
          cases h
          exact .binding role body (siblingsRead_of_eq_ok hrest)
        · obtain ⟨_, reads, h⟩ := Except.ok_of_bind h
          obtain ⟨⟨_, _⟩, body, h⟩ := Except.ok_of_bind h
          obtain ⟨⟨_, _⟩, hrest, h⟩ := Except.ok_of_bind h
          cases h
          exact .switch role reads body (siblingsRead_of_eq_ok hrest)
        · cases h
        · cases h
        · exact .comment role (siblingsRead_of_eq_ok h)

/-- A way to read siblings is what reading them comes to. -/
theorem SiblingsRead.eq_ok {pairing : Pairing} {ts : List (Tree N)}
    {companions : Companions (Source N)} {items : List (Source N)}
    (h : SiblingsRead options pairing ts companions items) :
    readSiblings options pairing ts = .ok (companions, items) := by
  induction h with
  | nil => rw [readSiblings]
  | text role behind ih =>
    rw [readSiblings, role]
    simp only [ih]
    rfl
  | element role body behind ih =>
    rw [readSiblings, role]
    simp only [body, ih]
    rfl
  | conditional role reads body behind ih =>
    rw [readSiblings, role]
    simp only [reads, body, ih]
    rfl
  | elseIf role reads body behind ih =>
    rw [readSiblings, role]
    simp only [reads, body, ih]
    rfl
  | otherwise role body behind ih =>
    rw [readSiblings, role]
    simp only [body, ih]
    rfl
  | loop role reads body behind ih =>
    rw [readSiblings, role]
    simp only [reads, body, ih]
    rfl
  | loopElse role body behind ih =>
    rw [readSiblings, role]
    simp only [body, ih]
    rfl
  | binding role body behind ih =>
    rw [readSiblings, role]
    simp only [body, ih]
    rfl
  | switch role reads body behind ih =>
    rw [readSiblings, role]
    simp only [reads, body, ih]
    rfl
  | comment role behind ih =>
    rw [readSiblings, role]
    exact ih

/-- Without an open directive before them siblings hold no companions of one. -/
theorem SiblingsRead.eq_none {ts : List (Tree N)} {companions : Companions (Source N)}
    {items : List (Source N)} (h : SiblingsRead options .closed ts companions items) :
    companions = .none := by
  generalize hpairing : Pairing.closed = pairing at h
  induction h with
  | nil => rfl
  | text role behind ih => exact ih (by rw [← hpairing, ite_self])
  | conditional => rfl
  | loop => rfl
  | elseIf => nomatch hpairing
  | otherwise => nomatch hpairing
  | loopElse => nomatch hpairing
  | element role body behind ih => exact ih rfl
  | binding role body behind ih => exact ih rfl
  | switch role reads body behind ih => exact ih rfl
  | comment role behind ih => exact ih hpairing

/-- Only behind an open conditional there are `else-if` branches. -/
theorem SiblingsRead.elseIfs_eq_nil {pairing : Pairing} {ts : List (Tree N)}
    {companions : Companions (Source N)} {items : List (Source N)}
    (h : SiblingsRead options pairing ts companions items) (hpairing : pairing ≠ .conditional) :
    companions.elseIfs = [] := by
  induction h with
  | text role behind ih => exact ih (by split <;> first | exact hpairing | decide)
  | elseIf => exact absurd rfl hpairing
  | element role body behind ih => exact ih (by decide)
  | binding role body behind ih => exact ih (by decide)
  | switch role reads body behind ih => exact ih (by decide)
  | comment role behind ih => exact ih hpairing
  | _ => rfl

/-- A body that is read without an error. -/
theorem siblingsRead_of_readBody {t : Tree N} {items : List (Source N)}
    (h : readBody options t = .ok items) :
    ∃ companions, SiblingsRead options .closed t.children companions items := by
  rw [readBody_eq] at h
  obtain ⟨⟨companions, _⟩, hread, rfl⟩ := Except.ok_of_map h
  exact ⟨companions, siblingsRead_of_eq_ok hread⟩

/-! ## The children of a switch -/

/-- Children of a switch that are read without an error, with the cases and the default read. -/
inductive CasesRead (options : Options) :
    Bool → List (Tree N) → List (Branch Operand (Source N)) → Option (List (Source N)) → Prop
  | nil {hasDefault} : CasesRead options hasDefault [] [] none
  | case {hasDefault t rest tag operand inside cases otherwise?}
      (role : options.role t.node = .directive tag (some .case))
      (reads : operand? t.node "value" = some operand)
      (body : readBody options t = .ok inside)
      (behind : CasesRead options hasDefault rest cases otherwise?) :
      CasesRead options hasDefault (t :: rest) (⟨operand, inside⟩ :: cases) otherwise?
  | caseDefault {t rest tag inside cases otherwise?}
      (role : options.role t.node = .directive tag (some .caseDefault))
      (body : readBody options t = .ok inside)
      (behind : CasesRead options true rest cases otherwise?) :
      CasesRead options false (t :: rest) cases (some inside)
  | comment {hasDefault t rest tag cases otherwise?}
      (role : options.role t.node = .directive tag (some .comment))
      (behind : CasesRead options hasDefault rest cases otherwise?) :
      CasesRead options hasDefault (t :: rest) cases otherwise?
  | blank {hasDefault t rest content cases otherwise?}
      (role : options.role t.node = .text content) (hblank : Text.blank content = true)
      (behind : CasesRead options hasDefault rest cases otherwise?) :
      CasesRead options hasDefault (t :: rest) cases otherwise?

/-- Behind the default of a switch there is no other. -/
theorem CasesRead.otherwise_eq_none {ts : List (Tree N)} {cases : List (Branch Operand (Source N))}
    {otherwise? : Option (List (Source N))} (h : CasesRead options true ts cases otherwise?) :
    otherwise? = none := by
  generalize hdefault : true = hasDefault at h
  induction h with
  | nil => rfl
  | caseDefault => exact absurd hdefault (by decide)
  | case role reads body behind ih => exact ih hdefault
  | comment role behind ih => exact ih hdefault
  | blank role hblank behind ih => exact ih hdefault

/-- **Every reading of the children of a switch without an error is one of `CasesRead`.** -/
theorem casesRead_of_eq_ok : ∀ {ts : List (Tree N)} {hasDefault : Bool}
    {cases : List (Branch Operand (Source N))} {otherwise? : Option (List (Source N))},
    readCases options hasDefault ts = .ok (cases, otherwise?) →
      CasesRead options hasDefault ts cases otherwise?
  | [], _, _, _, h => by
      rw [readCases] at h
      cases h
      exact .nil
  | t :: rest, hasDefault, cases, otherwise?, h => by
      rw [readCases] at h
      rcases role : options.role t.node with content | _ | ⟨tag, _ | keyword⟩
      · simp only [role] at h
        split at h
        · next hblank => exact .blank role hblank (casesRead_of_eq_ok h)
        · cases h
      · simp only [role] at h
        cases h
      · simp only [role] at h
        cases h
      · rcases keyword with _ | _ | _ | _ | _ | _ | _ | _ | _ | _
        all_goals simp only [role] at h
        case case =>
          rcases reads : operand? t.node "value" with _ | operand
          · rw [reads] at h
            cases h
          · rw [reads] at h
            obtain ⟨_, body, h⟩ := Except.ok_of_bind h
            obtain ⟨⟨_, _⟩, hrest, h⟩ := Except.ok_of_bind h
            cases h
            exact .case role reads body (casesRead_of_eq_ok hrest)
        case caseDefault =>
          rcases hasDefault with _ | _
          · obtain ⟨_, body, h⟩ := Except.ok_of_bind h
            obtain ⟨⟨_, _⟩, hrest, h⟩ := Except.ok_of_bind h
            cases h
            exact .caseDefault role body (casesRead_of_eq_ok hrest)
          · cases h
        case comment => exact .comment role (casesRead_of_eq_ok h)
        all_goals cases h

end Source

end Stencil
