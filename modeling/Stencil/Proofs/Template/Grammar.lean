import Stencil.Proofs.Number.Numeral
import Stencil.Proofs.Template.Checks

/-!
# Proofs/Template/Grammar — the grammar of directives

The grammar of directives, said of each list of siblings that is reached: which attributes a directive
needs, and what a companion has to follow once comments and blank texts are left out.  A breach of it
is named by an error.
-/

namespace Stencil

variable {N : Type} [Host N] (options : Options)

/-! ## Lists that are reached -/

/-- A list of trees that is reached from another: that list itself, or one reached from what is below
one of its members.  Nothing is reached below texts and comments. -/
inductive Tree.Reached : Place → List (Tree N) → Place → List (Tree N) → Prop
  | here {place ts} : Tree.Reached place ts place ts
  | child {place ts t inner place' us} (mem : t ∈ ts)
      (role : (options.role t.node).below? = some inner)
      (inside : Tree.Reached inner t.children place' us) : Tree.Reached place ts place' us

namespace Grammar

/-! ## The grammar -/

/-- What is left of a list without comments and blank texts. -/
def significant (ts : List (Tree N)) : List (Tree N) :=
  ts.filter fun t => !(options.role t.node).passes

/-- A tree is a directive with one of some keywords. -/
def Is (t : Tree N) (keywords : List Keyword) : Prop :=
  ∃ tag, ∃ keyword ∈ keywords, options.role t.node = .directive tag (some keyword)

/-- The last of some trees is a directive with one of some keywords. -/
def Follows (before : List (Tree N)) (keywords : List Keyword) : Prop :=
  ∃ t, before.getLast? = some t ∧ Is options t keywords

/-- The attributes that a directive needs. -/
def required : Keyword → List String
  | .conditional => ["test"]
  | .elseIf => ["test"]
  | .loop => ["in", "as"]
  | .switch => ["value"]
  | .case => ["value"]
  | _ => []

/-- A text that, but for white space around it, is a decimal numeral of a finite double. -/
def FiniteNumeral (raw : String) : Prop :=
  ∃ d x, Decimal.Spells (Text.trim raw.toList) d ∧ d.toDouble = .finite x

/-- **What siblings have to keep to.** -/
structure Siblings (ts : List (Tree N)) : Prop where
  companions : ∀ before t after, significant options ts = before ++ t :: after →
    Is options t [.elseIf, .otherwise] → Follows options before [.conditional, .elseIf]
  loopCompanions : ∀ before t after, significant options ts = before ++ t :: after →
    Is options t [.loopElse] → Follows options before [.loop]
  attributes : ∀ t ∈ ts, ∀ tag keyword, options.role t.node = .directive tag (some keyword) →
    ∀ name ∈ required keyword, Host.hasAttribute t.node name = true
  counters : ∀ t ∈ ts, Is options t [.loop] → Host.hasAttribute t.node "index" = true →
    ∀ name ∈ ["index-start", "index-step"], ∀ raw, Host.attribute? t.node name = some raw →
      FiniteNumeral raw
  noCase : ∀ t ∈ ts, ¬ Is options t [.case, .caseDefault]
  known : ∀ t ∈ ts, ∀ tag, options.role t.node ≠ .directive tag none

/-- **What the children of a switch have to keep to.** -/
structure Cases (ts : List (Tree N)) : Prop where
  only : ∀ t ∈ significant options ts, Is options t [.case, .caseDefault]
  attributes : ∀ t ∈ ts, ∀ tag keyword, options.role t.node = .directive tag (some keyword) →
    ∀ name ∈ required keyword, Host.hasAttribute t.node name = true
  oneDefault : ∀ before t after, significant options ts = before ++ t :: after →
    Is options t [.caseDefault] → ∀ other ∈ before, ¬ Is options other [.caseDefault]

/-- What trees have to keep to in their place. -/
def Keeps : Place → List (Tree N) → Prop
  | .siblings, ts => Siblings options ts
  | .cases, ts => Cases options ts

variable {options} in
theorem Keeps.attributes : ∀ {place : Place} {ts : List (Tree N)}, Keeps options place ts →
    ∀ t ∈ ts, ∀ tag keyword, options.role t.node = .directive tag (some keyword) →
      ∀ name ∈ required keyword, Host.hasAttribute t.node name = true
  | .siblings, _, h => Siblings.attributes h
  | .cases, _, h => Cases.attributes h

/-- The name that a node goes by among the children of a switch. -/
def displayTag (node : N) : String :=
  match options.role node with
  | .directive tag _ => tag
  | .element => (Host.tag? node).getD "#text"
  | .text _ => "#text"

/-- **A breach of the grammar**, and the error that names it. -/
inductive Breach : Place → List (Tree N) → TemplateError → Prop
  | companion {ts before t after tag keyword} (split : significant options ts = before ++ t :: after)
      (role : options.role t.node = .directive tag (some keyword))
      (kind : keyword ∈ [Keyword.elseIf, .otherwise])
      (alone : ¬ Follows options before [.conditional, .elseIf]) :
      Breach .siblings ts (.misplaced tag .conditional)
  | loopCompanion {ts before t after tag} (split : significant options ts = before ++ t :: after)
      (role : options.role t.node = .directive tag (some .loopElse))
      (alone : ¬ Follows options before [.loop]) : Breach .siblings ts (.misplaced tag .loop)
  | attribute {place ts t tag keyword name} (mem : t ∈ ts)
      (role : options.role t.node = .directive tag (some keyword)) (needed : name ∈ required keyword)
      (absent : Host.hasAttribute t.node name = false) :
      Breach place ts (.missingAttribute tag name)
  | counter {ts t tag name raw} (mem : t ∈ ts)
      (role : options.role t.node = .directive tag (some .loop))
      (index : Host.hasAttribute t.node "index" = true) (kind : name ∈ ["index-start", "index-step"])
      (value : Host.attribute? t.node name = some raw) (noNumeral : ¬ FiniteNumeral raw) :
      Breach .siblings ts (.invalidAttribute tag name raw)
  | unknown {ts t tag} (mem : t ∈ ts) (role : options.role t.node = .directive tag none) :
      Breach .siblings ts (.unknownDirective tag)
  | outside {ts t tag keyword} (mem : t ∈ ts)
      (role : options.role t.node = .directive tag (some keyword))
      (kind : keyword ∈ [Keyword.case, .caseDefault]) :
      Breach .siblings ts (.unexpectedContent tag .outsideSwitch)
  | inside {ts t} (mem : t ∈ significant options ts) (other : ¬ Is options t [.case, .caseDefault]) :
      Breach .cases ts (.unexpectedContent (displayTag options t.node) .insideSwitch)
  | twice {ts before t after tag other} (split : significant options ts = before ++ t :: after)
      (role : options.role t.node = .directive tag (some .caseDefault)) (mem : other ∈ before)
      (first : Is options other [.caseDefault]) :
      Breach .cases ts (.unexpectedContent tag .twiceInSwitch)

variable {options}

/-- What breaks the grammar does not keep to it. -/
theorem Breach.not_keeps {place : Place} {ts : List (Tree N)} {e : TemplateError}
    (h : Breach options place ts e) : ¬ Keeps options place ts := by
  intro hkeeps
  rcases h with ⟨split, role, kind, alone⟩ | ⟨split, role, alone⟩ | ⟨mem, role, needed, absent⟩
    | ⟨mem, role, index, kind, value, noNumeral⟩ | ⟨mem, role⟩ | ⟨mem, role, kind⟩ | ⟨mem, other⟩
    | ⟨split, role, mem, first⟩
  · exact alone (hkeeps.companions _ _ _ split ⟨_, _, kind, role⟩)
  · exact alone (hkeeps.loopCompanions _ _ _ split ⟨_, _, .head _, role⟩)
  · exact Bool.false_ne_true (absent.symm.trans (hkeeps.attributes _ mem _ _ role _ needed))
  · exact noNumeral (hkeeps.counters _ mem ⟨_, _, .head _, role⟩ index _ kind _ value)
  · exact hkeeps.known _ mem _ role
  · exact hkeeps.noCase _ mem ⟨_, _, kind, role⟩
  · exact other (hkeeps.only _ mem)
  · exact hkeeps.oneDefault _ _ _ split ⟨_, _, .head _, role⟩ _ mem first

end Grammar

end Stencil
