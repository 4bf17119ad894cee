import Stencil.Proofs.Direct.Basic

/-!
# Proofs/Direct/Simulation — two walks side by side

Two walks along trees with related nodes in the same places come to related outputs, provided that the
relation of outputs is kept by every step a walk can make (`Simulation`).  The trees may be of different
kinds and the painters may differ; the options and the scope are the same.
-/

namespace Stencil

/-! ## Related trees -/

/-- Whether what is below a node is part of the template: nothing below a text or a comment is. -/
def Role.opens : Role → Bool
  | .text _ => false
  | .directive _ (some .comment) => false
  | _ => true

section Related

variable {N M : Type} [Host N]

mutual
/-- Trees with related nodes in the same places, as far as they are part of a template. -/
inductive Tree.Related (options : Options) (P : N → M → Prop) : Tree N → Tree M → Prop
  | mk {node node' below below'} (top : P node node')
      (children : (options.role node).opens = true → Tree.AllRelated options P below below') :
      Tree.Related options P (.mk node below) (.mk node' below')
/-- Lists of trees with related nodes in the same places. -/
inductive Tree.AllRelated (options : Options) (P : N → M → Prop) :
    List (Tree N) → List (Tree M) → Prop
  | nil : Tree.AllRelated options P [] []
  | cons {t t' ts ts'} (head : Tree.Related options P t t')
      (tail : Tree.AllRelated options P ts ts') :
      Tree.AllRelated options P (t :: ts) (t' :: ts')
end

/-- Related trees have related nodes at the top. -/
theorem Tree.Related.node {options : Options} {P : N → M → Prop} {t : Tree N} {t' : Tree M}
    (h : Tree.Related options P t t') : P t.node t'.node := by
  obtain ⟨top, -⟩ := h
  exact top

/-- Trees are related one by one. -/
theorem Tree.allRelated_map {α : Type} {options : Options} {P : N → M → Prop} {f : α → Tree N}
    {g : α → Tree M} {as : List α} (h : ∀ a ∈ as, Tree.Related options P (f a) (g a)) :
    Tree.AllRelated options P (as.map f) (as.map g) := by
  induction as with
  | nil => exact .nil
  | cons a rest ih => exact .cons (h a (.head _)) (ih fun c hc => h c (.tail _ hc))

mutual

/-- Every tree is related to itself, if every node is. -/
theorem Tree.Related.refl {options : Options} {P : N → N → Prop} (h : ∀ n, P n n) :
    ∀ t : Tree N, Tree.Related options P t t
  | .mk node below => .mk (h node) fun _ => Tree.AllRelated.refl h below

theorem Tree.AllRelated.refl {options : Options} {P : N → N → Prop} (h : ∀ n, P n n) :
    ∀ ts : List (Tree N), Tree.AllRelated options P ts ts
  | [] => .nil
  | t :: rest => .cons (Tree.Related.refl h t) (Tree.AllRelated.refl h rest)

end

end Related

namespace Direct

variable {N M : Type} [Host N] [Host M]

/-- What it takes for two walks to come to related outputs: related nodes have the same role, and each
step of a walk keeps the relation.  `Subject` holds of the paths that switches are about. -/
structure Simulation (options : Options) (painter : Painter N) (painter' : Painter M)
    (P : N → M → Prop) (Subject : Path → Prop) (R : Output N → Output M → Prop) : Prop where
  role {n n'} (h : P n n') : options.role n' = options.role n
  nil : R .nil .nil
  append {a a' b b'} (ha : R a a') (hb : R b b') : R (a ++ b) (a' ++ b')
  text {n n' content} (scope : Scope) (h : P n n') (hrole : options.role n = .text content) :
    R (painter.text scope n content) (painter'.text scope n' content)
  element {n n' a a'} (scope : Scope) (h : P n n') (hrole : options.role n = .element) (ha : R a a') :
    R (painter.element scope n a) (painter'.element scope n' a')
  condition {n n' tag keyword a a' b b'} (scope : Scope) (h : P n n')
    (hrole : options.role n = .directive tag (some keyword))
    (hkeyword : keyword = .conditional ∨ keyword = .elseIf) (ha : R a a') (hb : R b b') :
    R (onCondition scope n tag a b) (onCondition scope n' tag a' b')
  loop {n n' tag b b'} {a : Scope → Output N} {a' : Scope → Output M} (scope : Scope) (h : P n n')
    (hrole : options.role n = .directive tag (some .loop)) (ha : ∀ round, R (a round) (a' round))
    (hb : R b b') : R (onLoop scope n tag a b) (onLoop scope n' tag a' b')
  binding {n n' tag} {a : Scope → Output N} {a' : Scope → Output M} (scope : Scope) (h : P n n')
    (hrole : options.role n = .directive tag (some .binding))
    (ha : ∀ inside, R (a inside) (a' inside)) : R (onBinding scope n a) (onBinding scope n' a')
  switch {n n' tag} {a : Path → Output N} {a' : Path → Output M} (h : P n n')
    (hrole : options.role n = .directive tag (some .switch))
    (ha : ∀ subject, Subject subject → R (a subject) (a' subject)) :
    R (.stated (requiredAttribute n tag "value") fun subject => a ⟨subject⟩)
      (.stated (requiredAttribute n' tag "value") fun subject => a' ⟨subject⟩)
  case {n n' tag subject a a' b b'} (scope : Scope) (h : P n n')
    (hrole : options.role n = .directive tag (some .case)) (hsubject : Subject subject)
    (ha : R a a') (hb : R b b') : R (onCase scope subject n a b) (onCase scope subject n' a' b')

namespace Simulation

variable {options : Options} {painter : Painter N} {painter' : Painter M} {P : N → M → Prop}
  {Subject : Path → Prop} {R : Output N → Output M → Prop}

mutual

/-- The walks below related nodes. -/
theorem body (sim : Simulation options painter painter' P Subject R) (scope : Scope) :
    ∀ {t : Tree N} {t' : Tree M}, Tree.Related options P t t' →
      (options.role t.node).opens = true →
      R (Direct.body options painter scope t) (Direct.body options painter' scope t')
  | _, _, .mk _ children, hopens => by
      rw [Direct.body, Direct.body]
      exact sim.siblings scope (children hopens)

/-- The walks through the cases of related switches. -/
theorem switchBody (sim : Simulation options painter painter' P Subject R) (scope : Scope)
    {subject : Path} (hsubject : Subject subject) :
    ∀ {t : Tree N} {t' : Tree M}, Tree.Related options P t t' →
      (options.role t.node).opens = true →
      R (Direct.switch options painter scope subject t)
        (Direct.switch options painter' scope subject t')
  | _, _, .mk _ children, hopens => by
      rw [Direct.switch, Direct.switch]
      exact sim.firstCase scope hsubject (sim.defaultCase scope (children hopens)) (children hopens)

/-- **Along related siblings two walks come to related outputs.** -/
theorem siblings (sim : Simulation options painter painter' P Subject R) (scope : Scope) :
    ∀ {ts : List (Tree N)} {ts' : List (Tree M)}, Tree.AllRelated options P ts ts' →
      R (Direct.siblings options painter scope ts) (Direct.siblings options painter' scope ts')
  | _, _, .nil => by
      rw [Direct.siblings, Direct.siblings]
      exact sim.nil
  | _, _, .cons (t := t) head tail => by
      have hnode := head.node
      have hsame := sim.role hnode
      rw [Direct.siblings, Direct.siblings, hsame]
      refine sim.append ?_ (sim.siblings scope tail)
      rcases hrole : options.role t.node with content | _ | ⟨tag, _ | keyword⟩
      · exact sim.text scope hnode hrole
      · exact sim.element scope hnode hrole (sim.body scope head (hrole ▸ rfl))
      · exact sim.nil
      · rcases keyword with _ | _ | _ | _ | _ | _ | _ | _ | _ | _
        case conditional =>
          exact sim.condition scope hnode hrole (.inl rfl) (sim.body scope head (hrole ▸ rfl))
            (sim.elseBranch scope tail)
        case loop =>
          exact sim.loop scope hnode hrole (fun round => sim.body round head (hrole ▸ rfl))
            (sim.loopElse scope tail)
        case binding => exact sim.binding scope hnode hrole fun inside => sim.body inside head (hrole ▸ rfl)
        case switch =>
          exact sim.switch hnode hrole fun subject hsubject => sim.switchBody scope hsubject head (hrole ▸ rfl)
        all_goals exact sim.nil

/-- The walks to the branch that is taken when none before it was. -/
theorem elseBranch (sim : Simulation options painter painter' P Subject R) (scope : Scope) :
    ∀ {ts : List (Tree N)} {ts' : List (Tree M)}, Tree.AllRelated options P ts ts' →
      R (Direct.elseBranch options painter scope ts) (Direct.elseBranch options painter' scope ts')
  | _, _, .nil => by
      rw [Direct.elseBranch, Direct.elseBranch]
      exact sim.nil
  | _, _, .cons (t := t) head tail => by
      have hnode := head.node
      have hsame := sim.role hnode
      rw [Direct.elseBranch, Direct.elseBranch, hsame]
      rcases hrole : options.role t.node with content | _ | ⟨tag, _ | keyword⟩
      · rcases hblank : Text.blank content with _ | _
        · simp only [hblank, Bool.false_eq_true, if_false]
          exact sim.nil
        · simp only [hblank, if_true]
          exact sim.elseBranch scope tail
      · exact sim.nil
      · exact sim.nil
      · rcases keyword with _ | _ | _ | _ | _ | _ | _ | _ | _ | _
        case elseIf =>
          exact sim.condition scope hnode hrole (.inr rfl) (sim.body scope head (hrole ▸ rfl))
            (sim.elseBranch scope tail)
        case otherwise => exact sim.body scope head (hrole ▸ rfl)
        case comment => exact sim.elseBranch scope tail
        all_goals exact sim.nil

/-- The walks to what stands for a loop without rounds. -/
theorem loopElse (sim : Simulation options painter painter' P Subject R) (scope : Scope) :
    ∀ {ts : List (Tree N)} {ts' : List (Tree M)}, Tree.AllRelated options P ts ts' →
      R (Direct.loopElse options painter scope ts) (Direct.loopElse options painter' scope ts')
  | _, _, .nil => by
      rw [Direct.loopElse, Direct.loopElse]
      exact sim.nil
  | _, _, .cons (t := t) head tail => by
      have hsame := sim.role head.node
      rw [Direct.loopElse, Direct.loopElse, hsame]
      rcases hrole : options.role t.node with content | _ | ⟨tag, _ | keyword⟩
      · rcases hblank : Text.blank content with _ | _
        · simp only [hblank, Bool.false_eq_true, if_false]
          exact sim.nil
        · simp only [hblank, if_true]
          exact sim.loopElse scope tail
      · exact sim.nil
      · exact sim.nil
      · rcases keyword with _ | _ | _ | _ | _ | _ | _ | _ | _ | _
        case loopElse => exact sim.body scope head (hrole ▸ rfl)
        case comment => exact sim.loopElse scope tail
        all_goals exact sim.nil

/-- The walks to the first case that is equal to the subject. -/
theorem firstCase (sim : Simulation options painter painter' P Subject R) (scope : Scope)
    {subject : Path} (hsubject : Subject subject) {fallback : Output N} {fallback' : Output M}
    (hfallback : R fallback fallback') :
    ∀ {ts : List (Tree N)} {ts' : List (Tree M)}, Tree.AllRelated options P ts ts' →
      R (Direct.firstCase options painter scope subject fallback ts)
        (Direct.firstCase options painter' scope subject fallback' ts')
  | _, _, .nil => by
      rw [Direct.firstCase, Direct.firstCase]
      exact hfallback
  | _, _, .cons (t := t) head tail => by
      have hnode := head.node
      have hsame := sim.role hnode
      have hrest := sim.firstCase scope hsubject hfallback tail
      rw [Direct.firstCase, Direct.firstCase, hsame]
      rcases hrole : options.role t.node with content | _ | ⟨tag, _ | keyword⟩
      · exact hrest
      · exact hrest
      · exact hrest
      · rcases keyword with _ | _ | _ | _ | _ | _ | _ | _ | _ | _
        case case => exact sim.case scope hnode hrole hsubject (sim.body scope head (hrole ▸ rfl)) hrest
        all_goals exact hrest

/-- The walks to the default among related cases. -/
theorem defaultCase (sim : Simulation options painter painter' P Subject R) (scope : Scope) :
    ∀ {ts : List (Tree N)} {ts' : List (Tree M)}, Tree.AllRelated options P ts ts' →
      R (Direct.defaultCase options painter scope ts) (Direct.defaultCase options painter' scope ts')
  | _, _, .nil => by
      rw [Direct.defaultCase, Direct.defaultCase]
      exact sim.nil
  | _, _, .cons (t := t) head tail => by
      have hsame := sim.role head.node
      rw [Direct.defaultCase, Direct.defaultCase, hsame]
      rcases hrole : options.role t.node with content | _ | ⟨tag, _ | keyword⟩
      · exact sim.defaultCase scope tail
      · exact sim.defaultCase scope tail
      · exact sim.defaultCase scope tail
      · rcases keyword with _ | _ | _ | _ | _ | _ | _ | _ | _ | _
        case caseDefault => exact sim.body scope head (hrole ▸ rfl)
        all_goals exact sim.defaultCase scope tail

end

/-- **Painters that agree on texts and elements** come to the same along the same nodes. -/
theorem same {painter painter' : Painter N} {Q : N → Prop}
    (htext : ∀ n content scope, Q n → options.role n = .text content →
      painter.text scope n content = painter'.text scope n content)
    (helement : ∀ n scope inside, Q n → options.role n = .element →
      painter.element scope n inside = painter'.element scope n inside) :
    Simulation options painter painter' (fun n n' => n' = n ∧ Q n) (fun _ => True) Eq where
  role := by
    rintro _ n ⟨rfl, -⟩
    rfl
  nil := rfl
  append := by
    rintro a _ b _ rfl rfl
    rfl
  text := by
    rintro _ n content scope ⟨rfl, hn⟩ hrole
    exact htext _ content scope hn hrole
  element := by
    rintro _ n a _ scope ⟨rfl, hn⟩ hrole rfl
    exact helement _ scope a hn hrole
  condition := by
    rintro _ n tag keyword a _ b _ scope ⟨rfl, -⟩ - - rfl rfl
    rfl
  loop := by
    rintro _ n tag b _ a a' scope ⟨rfl, -⟩ - ha rfl
    rw [funext ha]
  binding := by
    rintro _ n tag a a' scope ⟨rfl, -⟩ - ha
    rw [funext ha]
  switch := by
    rintro _ n tag a a' ⟨rfl, -⟩ - ha
    rw [funext fun subject => ha subject trivial]
  case := by
    rintro _ n tag subject a _ b _ scope ⟨rfl, -⟩ - - rfl rfl
    rfl

end Simulation

end Direct

end Stencil
