import Stencil.Proofs.Template.Comments

/-!
# Proofs/Template/Exchange — what stands between a directive and its companions

    pre ++ [blank, companion] ++ post ──compile──▸ entries ◂──compile── pre ++ [companion, blank] ++ post

A companion does not see what stands between it and its directive, as long as that is white space or a
comment: the two can change places (`Source.readSiblings_exchange`), in any list of siblings and whether the
companion is in place or not.  So white space in front of companions is kept, once, behind the directive
they belong to.
-/

namespace Stencil

namespace Role

/-- Whether a node is an `else-if`, an `else` or a `for-else`. -/
def isCompanion : Role → Bool
  | .directive _ (some .elseIf) => true
  | .directive _ (some .otherwise) => true
  | .directive _ (some .loopElse) => true
  | _ => false

theorem eq_of_isCompanion {role : Role} (h : role.isCompanion = true) :
    ∃ tag keyword, role = .directive tag (some keyword) ∧
      (keyword = .elseIf ∨ keyword = .otherwise ∨ keyword = .loopElse) := by
  rcases role with content | _ | ⟨tag, _ | keyword⟩
  case directive.some =>
    cases keyword with
    | elseIf => exact ⟨tag, _, rfl, .inl rfl⟩
    | otherwise => exact ⟨tag, _, rfl, .inr (.inl rfl)⟩
    | loopElse => exact ⟨tag, _, rfl, .inr (.inr rfl)⟩
    | _ => cases h
  all_goals cases h

/-- A node that leaves a directive open is a blank text or a comment. -/
theorem eq_of_passes {role : Role} (h : role.passes = true) :
    (∃ content, role = .text content ∧ Text.blank content = true) ∨ role.isComment = true := by
  rcases role with content | _ | ⟨tag, _ | keyword⟩
  case text => exact .inl ⟨content, rfl, h⟩
  case directive.some =>
    cases keyword with
    | comment => exact .inr rfl
    | _ => cases h
  all_goals cases h

end Role

namespace Source

variable {N : Type} [Host N] {options : Options}

/-! ## What is read behind a node -/

/-- Siblings that are read alike behind any directive are read alike behind any node. -/
theorem readSiblings_cons_congr {us vs : List (Tree N)}
    (h : ∀ pairing, readSiblings options pairing us = readSiblings options pairing vs) (t : Tree N)
    (pairing : Pairing) :
    readSiblings options pairing (t :: us) = readSiblings options pairing (t :: vs) := by
  rw [readSiblings, readSiblings]
  simp only [h]

/-- **Siblings that are read alike behind any directive are read alike behind any siblings.** -/
theorem readSiblings_append_congr {us vs : List (Tree N)}
    (h : ∀ pairing, readSiblings options pairing us = readSiblings options pairing vs)
    (ts : List (Tree N)) (pairing : Pairing) :
    readSiblings options pairing (ts ++ us) = readSiblings options pairing (ts ++ vs) := by
  induction ts generalizing pairing with
  | nil => exact h pairing
  | cons t rest ih => exact readSiblings_cons_congr ih t pairing

theorem readCases_append_congr {us vs : List (Tree N)}
    (h : ∀ hasDefault, readCases options hasDefault us = readCases options hasDefault vs)
    (ts : List (Tree N)) (hasDefault : Bool) :
    readCases options hasDefault (ts ++ us) = readCases options hasDefault (ts ++ vs) := by
  induction ts generalizing hasDefault with
  | nil => exact h hasDefault
  | cons t rest ih =>
    rw [List.cons_append, List.cons_append, readCases, readCases]
    simp only [ih]

/-! ## A companion and what is in front of it -/

/-- What is read with one more item in front. -/
def within (item : Source N) (read : Companions (Source N) × List (Source N)) :
    Companions (Source N) × List (Source N) := (read.1, item :: read.2)

/-- A blank text is an item of its own, and the directive before it stays open. -/
theorem readSiblings_blank {t : Tree N} {content : String} (role : options.role t.node = .text content)
    (hblank : Text.blank content = true) (pairing : Pairing) (rest : List (Tree N)) :
    readSiblings options pairing (t :: rest) =
      (readSiblings options pairing rest).map (within (.text t.node content)) := by
  rw [readSiblings, role]
  simp only [hblank, if_true]
  rcases readSiblings options pairing rest with e | ⟨companions, items⟩ <;> rfl

/-- A companion adds nothing to the items, so one more item behind it is one more in front of all. -/
theorem readSiblings_companion_within {c : Tree N} (hc : (options.role c.node).isCompanion = true)
    {us vs : List (Tree N)} {item : Source N}
    (h : ∀ pairing, readSiblings options pairing us =
      (readSiblings options pairing vs).map (within item)) (pairing : Pairing) :
    readSiblings options pairing (c :: us) =
      (readSiblings options pairing (c :: vs)).map (within item) := by
  obtain ⟨tag, keyword, role, rfl | rfl | rfl⟩ := Role.eq_of_isCompanion hc
  · rw [readSiblings, readSiblings, role]
    simp only [h]
    rcases readCondition c.node tag with e | condition
    · rfl
    rcases readBody options c with e | body
    · rfl
    rcases checkPairing pairing .conditional tag .conditional with e | _
    · rfl
    rcases readSiblings options .conditional vs with e | ⟨companions, items⟩ <;> rfl
  · rw [readSiblings, readSiblings, role]
    simp only [h]
    rcases readBody options c with e | body
    · rfl
    rcases checkPairing pairing .conditional tag .conditional with e | _
    · rfl
    rcases readSiblings options .closed vs with e | ⟨companions, items⟩ <;> rfl
  · rw [readSiblings, readSiblings, role]
    simp only [h]
    rcases readBody options c with e | body
    · rfl
    rcases checkPairing pairing .loop tag .loop with e | _
    · rfl
    rcases readSiblings options .closed vs with e | ⟨companions, items⟩ <;> rfl

/-- **A companion and a blank text or comment in front of it can change places**, behind whatever
directive, and whether the companion is in place there or not. -/
theorem readSiblings_exchange {w c : Tree N} (hw : (options.role w.node).passes = true)
    (hc : (options.role c.node).isCompanion = true) (rest : List (Tree N)) (pairing : Pairing) :
    readSiblings options pairing (w :: c :: rest) = readSiblings options pairing (c :: w :: rest) := by
  obtain ⟨content, role, hblank⟩ | hcomment := Role.eq_of_passes hw
  · rw [readSiblings_blank role hblank,
      readSiblings_companion_within hc fun pairing => readSiblings_blank role hblank pairing rest]
  · rw [readSiblings_comment hcomment]
    exact (readSiblings_cons_congr (readSiblings_comment hcomment · rest) c pairing).symm

/-- Among the children of a switch a companion is refused, whatever is in front of it or behind. -/
theorem readCases_exchange {w c : Tree N} (hw : (options.role w.node).passes = true)
    (hc : (options.role c.node).isCompanion = true) (rest : List (Tree N)) (hasDefault : Bool) :
    readCases options hasDefault (w :: c :: rest) = readCases options hasDefault (c :: w :: rest) := by
  have hrefused : ∃ e, ∀ us : List (Tree N), readCases options hasDefault (c :: us) = .error e := by
    obtain ⟨tag, keyword, role, rfl | rfl | rfl⟩ := Role.eq_of_isCompanion hc <;>
      exact ⟨_, fun us => by rw [readCases, role]⟩
  obtain ⟨e, hrefused⟩ := hrefused
  have hskipped : readCases options hasDefault (w :: c :: rest) =
      readCases options hasDefault (c :: rest) := by
    obtain ⟨content, role, hblank⟩ | hcomment := Role.eq_of_passes hw
    · rw [readCases, role]
      exact if_pos hblank
    · exact readCases_comment hcomment hasDefault _
  rw [hskipped, hrefused, hrefused]

/-- Siblings that are read alike wherever they stand. -/
def ReadAlike (options : Options) (us vs : List (Tree N)) : Prop :=
  (∀ pairing, readSiblings options pairing us = readSiblings options pairing vs) ∧
    ∀ hasDefault, readCases options hasDefault us = readCases options hasDefault vs

theorem ReadAlike.exchange (pre post : List (Tree N)) {w c : Tree N}
    (hw : (options.role w.node).passes = true) (hc : (options.role c.node).isCompanion = true) :
    ReadAlike options (pre ++ w :: c :: post) (pre ++ c :: w :: post) :=
  ⟨readSiblings_append_congr (readSiblings_exchange hw hc post) pre,
    readCases_append_congr (readCases_exchange hw hc post) pre⟩

/-- Where the children of one of some siblings are read alike, so are the siblings. -/
theorem ReadAlike.below (pre post : List (Tree N)) (node : N) {us vs : List (Tree N)}
    (h : ReadAlike options us vs) :
    ReadAlike options (pre ++ .mk node us :: post) (pre ++ .mk node vs :: post) := by
  have hbody : readBody options (.mk node us) = readBody options (.mk node vs) := by
    rw [readBody, readBody, h.1]
  have hswitch : readSwitch options (.mk node us) = readSwitch options (.mk node vs) := by
    rw [readSwitch, readSwitch, h.2]
  refine ⟨readSiblings_append_congr (fun pairing => ?_) pre,
    readCases_append_congr (fun hasDefault => ?_) pre⟩
  · rw [readSiblings, readSiblings]
    simp only [Tree.node_mk, hbody, hswitch]
  · rw [readCases, readCases]
    simp only [Tree.node_mk, hbody]

end Source

/-! ## Anywhere in a template -/

namespace Tree

variable {N : Type} [Host N] {options : Options} {P : N → N → Prop}

theorem AllRelated.append {ts us ts' us' : List (Tree N)} (h : AllRelated options P ts ts')
    (h' : AllRelated options P us us') : AllRelated options P (ts ++ us) (ts' ++ us') := by
  induction ts generalizing ts' with
  | nil =>
    cases h
    exact h'
  | cons t rest ih =>
    obtain _ | ⟨head, tail⟩ := h
    exact .cons head (ih tail)

end Tree

/-- Every node is a twin of itself. -/
theorem Host.Twin.refl {N : Type} [Host N] (options : Options) (n : N) :
    Host.Twin options options id n n :=
  ⟨(Role.rename_id _).symm, rfl, fun _ => rfl, fun _ => rfl, fun _ => rfl, fun _ => rfl⟩

namespace Node

/-- **Nodes that differ by one exchange**: in one list of siblings, somewhere among them or below, a companion
has changed places with the blank text or comment in front of it. -/
inductive Exchanged (options : Options) : List Node → List Node → Prop
  | here (pre post : List Node) {w c : Node} (hw : (options.role w).passes = true)
      (hc : (options.role c).isCompanion = true) :
      Exchanged options (pre ++ w :: c :: post) (pre ++ c :: w :: post)
  | inside (pre post : List Node) (tag : String) (attributes : Assoc String)
      {children children' : List Node} (h : Exchanged options children children') :
      Exchanged options (pre ++ .mk (.element tag) attributes children :: post)
        (pre ++ .mk (.element tag) attributes children' :: post)

theorem twin_element (options : Options) (tag : String) (attributes : Assoc String)
    (children children' : List Node) :
    Host.Twin options options id (mk (.element tag) attributes children)
      (mk (.element tag) attributes children') := by
  refine ⟨(Role.rename_id _).symm, rfl, fun _ => rfl, fun {content} h => ?_, fun _ => rfl, fun _ => rfl⟩
  exact (Option.some_ne_none content (Options.text?_of_role_text h).symm).elim

/-- What an exchange leads to is read as before, up to twins. -/
theorem Exchanged.readAlike {options : Options} {nodes nodes' : List Node}
    (h : Exchanged options nodes nodes') :
    ∃ ts, Source.ReadAlike options (trees nodes) ts ∧
      Tree.AllRelated options (Host.Twin options options id) ts (trees nodes') := by
  have hsame : ∀ nodes, Tree.AllRelated options (Host.Twin options options id) (trees nodes) (trees nodes) :=
    fun nodes => Tree.AllRelated.refl (Host.Twin.refl options) (trees nodes)
  induction h with
  | @here pre post w c hw hc =>
    refine ⟨_, ?_, hsame _⟩
    simp only [trees_eq_map, List.map_append, List.map_cons]
    exact .exchange _ _ (by rwa [node_tree]) (by rwa [node_tree])
  | @inside pre post tag attributes children children' h ih =>
    obtain ⟨ts, halike, hrelated⟩ := ih
    refine ⟨trees pre ++ .mk (mk (.element tag) attributes children) ts :: trees post, ?_, ?_⟩
    · simp only [trees_eq_map, List.map_append, List.map_cons]
      rw [tree, trees_eq_map]
      exact .below _ _ _ (trees_eq_map children ▸ halike)
    · have hmiddle := Tree.Related.mk (twin_element options tag attributes children children')
        fun _ => hrelated
      have hwhole := (hsame pre).append (.cons hmiddle (hsame post))
      simp only [trees_eq_map, List.map_append, List.map_cons] at hwhole ⊢
      rw [tree, trees_eq_map]
      exact hwhole

end Node

/-- **White space and comments change places with companions.**  In a list of siblings of any host, and at
any depth among ordinary nodes: whether a blank text or a comment stands in front of an `else-if`, `else` or
`for-else` or behind it, the template is compiled to the same entries or refused with the same error. -/
theorem Template.compile_exchange :
    (∀ {N : Type} [Host N] (options : Options) (pre post : List N) (w c : N),
      (options.role (Host.tree w).node).passes = true →
      (options.role (Host.tree c).node).isCompanion = true →
        compile options (pre ++ w :: c :: post) = compile options (pre ++ c :: w :: post)) ∧
    ∀ (options : Options) (nodes nodes' : List Node), Node.Exchanged options nodes nodes' →
      compile options nodes = compile options nodes' := by
  refine ⟨fun options pre post w c hw hc => ?_, fun options nodes nodes' h => ?_⟩
  · have halike := Source.ReadAlike.exchange (pre.map Host.tree) (post.map Host.tree) hw hc
    rw [compile, compile, Source.read, Source.read]
    simp only [List.map_append, List.map_cons, halike.1]
  · obtain ⟨ts, halike, hrelated⟩ := h.readAlike
    have htwins := Source.readSiblings_twins ⟨rfl, rfl⟩ .closed hrelated
    rw [← halike.1, Node.trees_eq_map, Node.trees_eq_map] at htwins
    exact (Template.compile_sameButTag ⟨rfl, rfl⟩ htwins).eq.symm

/-- A line break between an `if` and its `else` stands behind both; in front of an `else` without an `if`, one
level down, it makes no difference to the error. -/
theorem Template.compile_exchange_line :
    let line : Node := .text "\n"
    let chain : Node := .element "gb-if" [("test", "a")] [.text "x"]
    let other : Node := .element "gb-else" [] [.text "y"]
    (Options.default.role (Host.tree line).node).passes = true ∧
      (Options.default.role (Host.tree other).node).isCompanion = true ∧
      compile .default [chain, line, other] = compile .default [chain, other, line] ∧
      compile .default [chain, line, other] =
        .ok ⟨[.flow (.conditional ⟨⟨"a"⟩, none, [], false, false⟩ [.static (.text "x")] []
          (some [.static (.text "y")])), .static line]⟩ ∧
      Node.Exchanged .default [.element "p" [] [line, other]] [.element "p" [] [other, line]] ∧
      compile .default [Node.element "p" [] [line, other]] =
        compile .default [Node.element "p" [] [other, line]] := by
  intro line chain other
  have hbreak : (Options.default.role (Host.tree line).node).passes = true := by decide
  have hother : (Options.default.role (Host.tree other).node).isCompanion = true := by decide
  have hinside : Node.Exchanged .default [.element "p" [] [line, other]]
      [.element "p" [] [other, line]] :=
    .inside [] [] "p" [] (.here [] [] hbreak hother)
  exact ⟨hbreak, hother, compile_exchange.1 .default [chain] [] line other hbreak hother, rfl, hinside,
    compile_exchange.2 .default _ _ hinside⟩

end Stencil
