import Stencil.Proofs.Template.Reading
import Stencil.Template.Entry

/-!
# Proofs/Template/Checks — what a reading asks of every node

Whether a template can be read, and if not why, is a matter of checks that are made one after another:
for each node among its siblings what the node says by itself, then what is below it, then whether it is
in place (`check_readSiblings_cons`, `check_readCases_cons`).  What is read beside that makes no
difference.
-/

/-- Whether a result is one, and its error otherwise. -/
def Except.check {ε α : Type} (x : Except ε α) : Except ε Unit := x.map fun _ => ()

namespace Except

variable {ε α β : Type}

@[simp] theorem check_map (f : α → β) (x : Except ε α) : (x.map f).check = x.check := by
  rcases x with e | a <;> rfl

/-- Of a sequence whose second result does not depend on the first, both are checked. -/
theorem check_bind {x : Except ε α} {f : α → Except ε β} {first second : Except ε Unit}
    (hx : x.check = first) (h : ∀ a, (f a).check = second) :
    (x >>= f).check = first.bind fun _ => second := by
  subst hx
  rcases x with e | a
  · rfl
  · exact h a

/-- Nothing more is asked by a second result that is always one. -/
theorem check_bind_of_ok {x : Except ε α} {f : α → Except ε β} (h : ∀ a, (f a).check = .ok ()) :
    (x >>= f).check = x.check := by
  rcases x with e | a
  · rfl
  · exact h a

/-- A check succeeds if there is a result. -/
theorem check_eq_ok {x : Except ε α} : x.check = .ok () ↔ ∃ a, x = .ok a := by
  rcases x with e | a
  · exact ⟨fun h => (nomatch h), fun ⟨_, h⟩ => (nomatch h)⟩
  · exact ⟨fun _ => ⟨a, rfl⟩, fun _ => rfl⟩

/-- A check fails with the error of the result. -/
theorem check_eq_error {x : Except ε α} {e : ε} : x.check = .error e ↔ x = .error e := by
  rcases x with e' | a
  · exact ⟨fun h => congrArg _ (Except.error.inj h), fun h => congrArg _ (Except.error.inj h)⟩
  · exact ⟨fun h => (nomatch h), fun h => (nomatch h)⟩

/-! ## Checks one after another -/

variable {σ : Type}

/-- A check for each member of a list, in a state that depends on the members before it, up to the first
that fails. -/
def checkAll (step : σ → α → Except ε Unit) (next : σ → α → σ) : σ → List α → Except ε Unit
  | _, [] => .ok ()
  | s, a :: rest => (step s a).bind fun _ => checkAll step next (next s a) rest

variable {step : σ → α → Except ε Unit} {next : σ → α → σ}

/-- **Checks all succeed if each does**, in the state that the members before it lead to. -/
theorem checkAll_eq_ok {s : σ} {l : List α} :
    checkAll step next s l = .ok () ↔
      ∀ before a after, l = before ++ a :: after → step (before.foldl next s) a = .ok () := by
  induction l generalizing s with
  | nil => exact ⟨fun _ before a after h => (nomatch (List.append_eq_nil_iff.1 h.symm).2), fun _ => rfl⟩
  | cons c rest ih =>
    refine ⟨fun h before a after hsplit => ?_, fun h => ?_⟩
    · rw [checkAll] at h
      rcases hstep : step s c with e | _
      · rw [hstep] at h
        exact nomatch h
      · rw [hstep] at h
        rcases before with _ | ⟨b, before⟩
        · obtain ⟨rfl, -⟩ := List.cons.inj hsplit
          exact hstep
        · obtain ⟨rfl, htail⟩ := List.cons.inj hsplit
          exact ih.1 h before a after htail
    · have hstep : step s c = .ok () := h [] c rest rfl
      rw [checkAll, hstep]
      refine ih.2 fun before a after hsplit => ?_
      exact h (c :: before) a after (congrArg (c :: ·) hsplit)

/-- A check that fails is the check of one member. -/
theorem exists_of_checkAll_eq_error {s : σ} {l : List α} {e : ε}
    (h : checkAll step next s l = .error e) :
    ∃ before a after, l = before ++ a :: after ∧ step (before.foldl next s) a = .error e := by
  induction l generalizing s with
  | nil => exact nomatch h
  | cons c rest ih =>
    rw [checkAll] at h
    rcases hstep : step s c with e' | _
    · rw [hstep] at h
      obtain rfl := Except.error.inj h
      exact ⟨[], c, rest, rfl, hstep⟩
    · rw [hstep] at h
      obtain ⟨before, a, after, rfl, hmember⟩ := ih h
      exact ⟨c :: before, a, after, rfl, hmember⟩

end Except

namespace Stencil

/-! ## Places -/

/-- What some trees are read as: siblings of each other, or the children of a switch. -/
inductive Place where
  | siblings | cases
deriving DecidableEq

namespace Role

/-- What the children of a node are read as, if they are part of the template. -/
def below? : Role → Option Place
  | .text _ => none
  | .element => some .siblings
  | .directive _ none => none
  | .directive _ (some .switch) => some .cases
  | .directive _ (some .comment) => none
  | .directive _ (some _) => some .siblings

/-- Which directive a node leaves open for companions. -/
def leaves : Role → Pairing
  | .directive _ (some .conditional) => .conditional
  | .directive _ (some .elseIf) => .conditional
  | .directive _ (some .loop) => .loop
  | _ => .closed

/-- Whether a node is the default of a switch. -/
def isDefault : Role → Bool
  | .directive _ (some .caseDefault) => true
  | _ => false

/-- The companions' keywords, each with what has to be open before it. -/
def needs? : Role → Option (String × Pairing × Partner)
  | .directive tag (some .elseIf) => some (tag, .conditional, .conditional)
  | .directive tag (some .otherwise) => some (tag, .conditional, .conditional)
  | .directive tag (some .loopElse) => some (tag, .loop, .loop)
  | _ => none

end Role

/-- Which directive is open behind a node. -/
def Pairing.behind (pairing : Pairing) (role : Role) : Pairing :=
  if role.passes then pairing else role.leaves

namespace Source

variable {N : Type} [Host N] (options : Options)

/-! ## The checks -/

/-- What a node says by itself, among siblings. -/
def checkOwn (node : N) : Except TemplateError Unit :=
  match options.role node with
  | .text _ => .ok ()
  | .element => .ok ()
  | .directive tag none => .error (.unknownDirective tag)
  | .directive tag (some .conditional) => (readCondition node tag).check
  | .directive tag (some .elseIf) => (readCondition node tag).check
  | .directive tag (some .loop) => (readLoop node tag).check
  | .directive tag (some .switch) => (requiredAttribute node tag "value").check
  | .directive tag (some .case) => .error (.unexpectedContent tag .outsideSwitch)
  | .directive tag (some .caseDefault) => .error (.unexpectedContent tag .outsideSwitch)
  | .directive _ (some _) => .ok ()

/-- Whether a companion is in place. -/
def checkPlace (pairing : Pairing) (node : N) : Except TemplateError Unit :=
  match (options.role node).needs? with
  | some (tag, expected, partner) => checkPairing pairing expected tag partner
  | none => .ok ()

/-- Whether a node can stand among the children of a switch; `hasDefault` says that a default came
before. -/
def checkCase (hasDefault : Bool) (node : N) : Except TemplateError Unit :=
  match options.role node with
  | .directive tag (some .case) => (requiredAttribute node tag "value").check
  | .directive tag (some .caseDefault) =>
      if hasDefault then .error (.unexpectedContent tag .twiceInSwitch) else .ok ()
  | .directive _ (some .comment) => .ok ()
  | .directive tag _ => .error (.unexpectedContent tag .insideSwitch)
  | .text content =>
      if Text.blank content then .ok () else .error (.unexpectedContent "#text" .insideSwitch)
  | .element => .error (.unexpectedContent ((Host.tag? node).getD "#text") .insideSwitch)

/-- What is wrong first with some trees in their place. -/
def checkAs : Place → List (Tree N) → Except TemplateError Unit
  | .siblings, ts => (readSiblings options .closed ts).check
  | .cases, ts => (readCases options false ts).check

/-- What is wrong first below a node. -/
def checkBelow (t : Tree N) : Except TemplateError Unit :=
  match (options.role t.node).below? with
  | some place => checkAs options place t.children
  | none => .ok ()

/-- What is asked of a node among siblings: what it says by itself, what is below it, and whether it is
in place. -/
def checkSibling (pairing : Pairing) (t : Tree N) : Except TemplateError Unit :=
  (checkOwn options t.node).bind fun _ => (checkBelow options t).bind fun _ =>
    checkPlace options pairing t.node

/-- Which directive is open behind some siblings. -/
def pairingBehind (pairing : Pairing) (t : Tree N) : Pairing := pairing.behind (options.role t.node)

/-- What is asked of a child of a switch. -/
def checkCaseTree (hasDefault : Bool) (t : Tree N) : Except TemplateError Unit :=
  (checkCase options hasDefault t.node).bind fun _ => checkBelow options t

/-- Whether there is a default among some children of a switch. -/
def defaultBehind (hasDefault : Bool) (t : Tree N) : Bool :=
  hasDefault || (options.role t.node).isDefault

/-! ## One node after another -/

variable {options}

/-- A body passes if its nodes do. -/
theorem check_readBody (t : Tree N) :
    (readBody options t).check = checkAs options .siblings t.children := by
  rw [readBody_eq, Except.check_map, checkAs]

/-- A switch passes if its cases do. -/
theorem check_readSwitch (t : Tree N) :
    (readSwitch options t).check = checkAs options .cases t.children := by
  rw [readSwitch_eq, checkAs]

theorem checkPairing_check (pairing expected : Pairing) (tag : String) (partner : Partner) :
    (checkPairing pairing expected tag partner).check = checkPairing pairing expected tag partner := by
  rw [checkPairing]
  split <;> rfl

theorem check_readSiblings_nil (pairing : Pairing) :
    (readSiblings options pairing ([] : List (Tree N))).check = .ok () := by
  rw [readSiblings]
  rfl

/-- **The checks among siblings**: what a node says by itself, what is below it, whether it is in place,
and then the nodes behind it. -/
theorem check_readSiblings_cons (pairing : Pairing) (t : Tree N) (rest : List (Tree N)) :
    (readSiblings options pairing (t :: rest)).check =
      (checkOwn options t.node).bind fun _ => (checkBelow options t).bind fun _ =>
        (checkPlace options pairing t.node).bind fun _ =>
          (readSiblings options (pairing.behind (options.role t.node)) rest).check := by
  rw [readSiblings, checkOwn, checkBelow, checkPlace]
  rcases role : options.role t.node with content | _ | ⟨tag, _ | keyword⟩
  · exact Except.check_bind_of_ok fun _ => rfl
  · change _ = (checkAs options .siblings t.children).bind fun _ =>
      (readSiblings options .closed rest).check
    exact Except.check_bind (check_readBody t) fun _ => Except.check_bind_of_ok fun _ => rfl
  · rfl
  · rcases keyword with _ | _ | _ | _ | _ | _ | _ | _ | _ | _
    case conditional | loop =>
      exact Except.check_bind rfl fun _ => Except.check_bind (check_readBody t) fun _ =>
        Except.check_bind_of_ok fun _ => rfl
    case elseIf =>
      refine Except.check_bind rfl fun _ => Except.check_bind (check_readBody t) fun _ =>
        Except.check_bind (checkPairing_check ..) fun _ => ?_
      exact Except.check_bind_of_ok fun _ => rfl
    case otherwise =>
      change _ = (checkAs options .siblings t.children).bind fun _ =>
        (checkPairing pairing .conditional tag .conditional).bind fun _ =>
          (readSiblings options .closed rest).check
      exact Except.check_bind (check_readBody t) fun _ =>
        Except.check_bind (checkPairing_check ..) fun _ => Except.check_bind_of_ok fun _ => rfl
    case loopElse =>
      change _ = (checkAs options .siblings t.children).bind fun _ =>
        (checkPairing pairing .loop tag .loop).bind fun _ =>
          (readSiblings options .closed rest).check
      exact Except.check_bind (check_readBody t) fun _ =>
        Except.check_bind (checkPairing_check ..) fun _ => Except.check_bind_of_ok fun _ => rfl
    case binding =>
      change _ = (checkAs options .siblings t.children).bind fun _ =>
        (readSiblings options .closed rest).check
      exact Except.check_bind (check_readBody t) fun _ => Except.check_bind_of_ok fun _ => rfl
    case switch =>
      exact Except.check_bind rfl fun _ => Except.check_bind (check_readSwitch t) fun _ =>
        Except.check_bind_of_ok fun _ => rfl
    all_goals rfl

theorem check_readCases_nil (hasDefault : Bool) :
    (readCases options hasDefault ([] : List (Tree N))).check = .ok () := by
  rw [readCases]
  rfl

/-- **The checks among the children of a switch.** -/
theorem check_readCases_cons (hasDefault : Bool) (t : Tree N) (rest : List (Tree N)) :
    (readCases options hasDefault (t :: rest)).check =
      (checkCase options hasDefault t.node).bind fun _ => (checkBelow options t).bind fun _ =>
        (readCases options (hasDefault || (options.role t.node).isDefault) rest).check := by
  rw [readCases, checkCase, checkBelow]
  rcases role : options.role t.node with content | _ | ⟨tag, _ | keyword⟩
  · simp only [Role.isDefault, Bool.or_false]
    split <;> rfl
  · rfl
  · rfl
  · rcases keyword with _ | _ | _ | _ | _ | _ | _ | _ | _ | _
    case case =>
      simp only [requiredAttribute, operand?, Role.isDefault, Bool.or_false]
      rcases Host.attribute? t.node "value" with _ | raw
      · rfl
      · change _ = (checkAs options .siblings t.children).bind fun _ =>
          (readCases options hasDefault rest).check
        exact Except.check_bind (check_readBody t) fun _ => Except.check_bind_of_ok fun _ => rfl
    case caseDefault =>
      simp only [Role.isDefault, Bool.or_true]
      rcases hasDefault with _ | _
      · change _ = (checkAs options .siblings t.children).bind fun _ =>
          (readCases options true rest).check
        exact Except.check_bind (check_readBody t) fun _ => Except.check_bind_of_ok fun _ => rfl
      · rfl
    case comment =>
      simp only [Role.isDefault, Bool.or_false]
      rfl
    all_goals rfl

/-- **Siblings are read if every one of them passes its checks**, and else the error is the first that
one of them gives. -/
theorem check_readSiblings (pairing : Pairing) (ts : List (Tree N)) :
    (readSiblings options pairing ts).check =
      Except.checkAll (checkSibling options) (pairingBehind options) pairing ts := by
  induction ts generalizing pairing with
  | nil => exact check_readSiblings_nil pairing
  | cons t rest ih =>
    rw [check_readSiblings_cons, Except.checkAll, checkSibling, ih]
    rcases checkOwn options t.node with e | _
    · rfl
    · rcases checkBelow options t with e | _ <;> rfl

/-- **Cases are read if every one of them passes its checks**, as siblings are. -/
theorem check_readCases (hasDefault : Bool) (ts : List (Tree N)) :
    (readCases options hasDefault ts).check =
      Except.checkAll (checkCaseTree options) (defaultBehind options) hasDefault ts := by
  induction ts generalizing hasDefault with
  | nil => exact check_readCases_nil hasDefault
  | cons t rest ih =>
    rw [check_readCases_cons, Except.checkAll, checkCaseTree, ih]
    rcases checkCase options hasDefault t.node with e | _ <;> rfl

theorem checkAs_siblings (ts : List (Tree N)) :
    checkAs options .siblings ts =
      Except.checkAll (checkSibling options) (pairingBehind options) .closed ts :=
  check_readSiblings .closed ts

theorem checkAs_cases (ts : List (Tree N)) :
    checkAs options .cases ts =
      Except.checkAll (checkCaseTree options) (defaultBehind options) false ts :=
  check_readCases false ts

/-- What is wrong first with a template. -/
theorem check_compile (nodes : List N) :
    (Template.compile options nodes).check = checkAs options .siblings (nodes.map Host.tree) := by
  rw [Template.compile, Except.check_map, read, Except.check_map, checkAs]

end Source

end Stencil
