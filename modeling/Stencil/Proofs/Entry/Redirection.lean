import Stencil.Proofs.Entry.Parts
import Stencil.Proofs.Template.Paths

/-!
# Proofs/Entry/Redirection — entries with other paths in them

A redirection puts a path in the place of each path of some entries, in their texts and tags and in all
that lies below (`Entry.redirectAll`).  Everything else stays, the names that the entries bind among it; so
to put the same paths again is no change (`Entry.redirectAll_id`).
-/

namespace Stencil

/-! ## Paths and names of entries -/

/-- The paths in the tags of a directive's own, not in its bodies. -/
def Flow.ownPaths {E : Type} : Flow E → List Path
  | .conditional condition _ elseIfs _ =>
      condition.paths ++ elseIfs.flatMap fun branch => branch.guard.paths
  | .loop run _ _ => [run.iterable]
  | .binding bindings _ => bindings.map Prod.snd
  | .switch subject cases _ => subject :: cases.flatMap fun branch => branch.guard.paths

/-- The names that a loop binds in its rounds. -/
def Loop.names (run : Loop) : List String :=
  run.valueName :: (run.keyName?.toList ++ run.counter?.toList.map Counter.name)

/-- The names that a directive binds in its bodies. -/
def Flow.ownNames {E : Type} : Flow E → List String
  | .loop run _ _ => run.names
  | .binding bindings _ => bindings.map Prod.fst
  | .conditional .. => []
  | .switch .. => []

namespace Entry

variable {N : Type}

/-- The paths of an entry itself, not of the entries it is put together from. -/
def ownPaths : Entry N → List Path
  | static _ => []
  | leaf text => text.paths
  | element _ attributes _ => attributes.flatMap fun entry => entry.2.paths
  | flow f => f.ownPaths

/-- The names that an entry itself binds. -/
def ownNames : Entry N → List String
  | flow f => f.ownNames
  | _ => []

/-- **The paths of entries**: those of one of them or of an entry anywhere below. -/
def Uses (entries : List (Entry N)) (p : Path) : Prop := ∃ e : Entry N, e.Within entries ∧ p ∈ e.ownPaths

/-- **The names that entries bind**, be it one of them or an entry anywhere below. -/
def Binds (entries : List (Entry N)) (name : String) : Prop :=
  ∃ e : Entry N, e.Within entries ∧ name ∈ e.ownNames

/-- What is within some entries is the first of them, or lies below it, or is within the others. -/
theorem exists_within_cons {P : Entry N → Prop} (e : Entry N) (rest : List (Entry N)) :
    (∃ x : Entry N, x.Within (e :: rest) ∧ P x) ↔
      P e ∨ (∃ body ∈ e.parts, ∃ x : Entry N, x.Within body ∧ P x) ∨
        ∃ x : Entry N, x.Within rest ∧ P x := by
  constructor
  · rintro ⟨x, hwithin, hx⟩
    cases hwithin with
    | here => exact .inl hx
    | part mem inside => exact .inr (.inl ⟨_, mem, x, inside, hx⟩)
    | later behind => exact .inr (.inr ⟨x, behind, hx⟩)
  · rintro (hx | ⟨body, hbody, x, inside, hx⟩ | ⟨x, behind, hx⟩)
    · exact ⟨e, .here, hx⟩
    · exact ⟨x, .part hbody inside, hx⟩
    · exact ⟨x, .later behind, hx⟩

theorem not_exists_within_nil {P : Entry N → Prop} : ¬ ∃ x : Entry N, x.Within [] ∧ P x := by
  rintro ⟨x, hwithin, -⟩
  cases hwithin

@[simp] theorem uses_nil (p : Path) : ¬ Uses ([] : List (Entry N)) p := not_exists_within_nil

/-- The paths of entries are those of the first one, of what lies below it and of the others. -/
@[simp] theorem uses_cons (e : Entry N) (rest : List (Entry N)) (p : Path) :
    Uses (e :: rest) p ↔ p ∈ e.ownPaths ∨ (∃ body ∈ e.parts, Uses body p) ∨ Uses rest p :=
  exists_within_cons e rest

@[simp] theorem binds_nil (name : String) : ¬ Binds ([] : List (Entry N)) name := not_exists_within_nil

/-- The names that entries bind are those of the first one, of what lies below it and of the others. -/
@[simp] theorem binds_cons (e : Entry N) (rest : List (Entry N)) (name : String) :
    Binds (e :: rest) name ↔
      name ∈ e.ownNames ∨ (∃ body ∈ e.parts, Binds body name) ∨ Binds rest name :=
  exists_within_cons e rest

end Entry

/-! ## Other paths -/

/-- An operand with another path. -/
def Operand.redirect (σ : Path → Path) : Operand → Operand
  | literal text => literal text
  | path p => path (σ p)

/-- A condition with other paths. -/
def Condition.redirect (σ : Path → Path) (condition : Condition) : Condition :=
  { condition with
    test := σ condition.test
    equal? := condition.equal?.map (Operand.redirect σ)
    comparisons := condition.comparisons.map (Prod.map id (Operand.redirect σ)) }

/-- A loop over another path. -/
def Loop.redirect (σ : Path → Path) (run : Loop) : Loop := { run with iterable := σ run.iterable }

/-- A text with other paths in its holes. -/
def Interpolation.redirect (σ : Path → Path) (text : Interpolation) : Interpolation :=
  { text with holes := text.holes.map (Prod.map id σ) }

/-- An operand with the same path is the same operand. -/
theorem Operand.redirect_id : redirect id = id := funext fun operand => by cases operand <;> rfl

/-- A condition with the same paths is the same condition. -/
theorem Condition.redirect_id (condition : Condition) : condition.redirect id = condition := by
  obtain ⟨test, equal?, comparisons, null, negated⟩ := condition
  simp [redirect, Operand.redirect_id]

theorem Interpolation.redirect_id : redirect id = id := funext fun text => by
  obtain ⟨holes, tail⟩ := text
  simp [redirect]

namespace Entry

variable {N : Type}

mutual
/-- **An entry with other paths**, everywhere in it. -/
def redirect (σ : Path → Path) : Entry N → Entry N
  | static node => static node
  | leaf text => leaf (text.redirect σ)
  | element skeleton attributes children =>
      element skeleton (attributes.map (Prod.map id (Interpolation.redirect σ)))
        (redirectAll σ children)
  | flow f => flow (redirectFlow σ f)
/-- Entries with other paths. -/
def redirectAll (σ : Path → Path) : List (Entry N) → List (Entry N)
  | [] => []
  | e :: rest => redirect σ e :: redirectAll σ rest
/-- A directive with other paths, its own and those in its bodies. -/
def redirectFlow (σ : Path → Path) : Flow (Entry N) → Flow (Entry N)
  | .conditional condition body elseIfs otherwise? =>
      .conditional (condition.redirect σ) (redirectAll σ body) (redirectElseIfs σ elseIfs)
        (redirectOption σ otherwise?)
  | .loop run body otherwise? =>
      .loop (run.redirect σ) (redirectAll σ body) (redirectOption σ otherwise?)
  | .binding bindings body => .binding (bindings.map (Prod.map id σ)) (redirectAll σ body)
  | .switch subject cases otherwise? =>
      .switch (σ subject) (redirectCases σ cases) (redirectOption σ otherwise?)
/-- The `else-if` branches with other paths. -/
def redirectElseIfs (σ : Path → Path) :
    List (Branch Condition (Entry N)) → List (Branch Condition (Entry N))
  | [] => []
  | ⟨condition, body⟩ :: rest =>
      ⟨condition.redirect σ, redirectAll σ body⟩ :: redirectElseIfs σ rest
/-- The cases with other paths. -/
def redirectCases (σ : Path → Path) :
    List (Branch Operand (Entry N)) → List (Branch Operand (Entry N))
  | [] => []
  | ⟨operand, body⟩ :: rest => ⟨operand.redirect σ, redirectAll σ body⟩ :: redirectCases σ rest
/-- A body that may be absent, with other paths. -/
def redirectOption (σ : Path → Path) : Option (List (Entry N)) → Option (List (Entry N))
  | none => none
  | some body => some (redirectAll σ body)
end

variable (σ : Path → Path)

/-- Each `else-if` branch is redirected for itself. -/
theorem redirectElseIfs_eq_map (elseIfs : List (Branch Condition (Entry N))) :
    redirectElseIfs σ elseIfs =
      elseIfs.map fun branch => ⟨branch.guard.redirect σ, redirectAll σ branch.body⟩ := by
  induction elseIfs with
  | nil => rw [redirectElseIfs, List.map_nil]
  | cons branch rest ih => rw [redirectElseIfs, ih, List.map_cons]

/-- Each case is redirected for itself. -/
theorem redirectCases_eq_map (cases : List (Branch Operand (Entry N))) :
    redirectCases σ cases =
      cases.map fun branch => ⟨branch.guard.redirect σ, redirectAll σ branch.body⟩ := by
  induction cases with
  | nil => rw [redirectCases, List.map_nil]
  | cons branch rest ih => rw [redirectCases, ih, List.map_cons]

/-! A redirection to the same paths is no change, if it is none in the bodies. -/

theorem map_redirectAll_id {G : Type} {f : G → G} {branches : List (Branch G (Entry N))}
    (hf : ∀ guard, f guard = guard) (h : ∀ body ∈ branches.map Branch.body, redirectAll id body = body) :
    branches.map (fun branch => ⟨f branch.guard, redirectAll id branch.body⟩) = branches := by
  refine (List.map_congr_left fun branch hbranch => ?_).trans (List.map_id branches)
  rw [hf, h _ (List.mem_map_of_mem hbranch), id]

/-- A body that is absent stays so. -/
theorem redirectOption_id {body? : Option (List (Entry N))}
    (h : ∀ body ∈ body?.toList, redirectAll id body = body) : redirectOption id body? = body? := by
  obtain _ | body := body?
  · rw [redirectOption]
  · rw [redirectOption, h body (.head _)]

/-- **A directive whose bodies stay as they are stays as it is**, one case per kind of directive. -/
theorem redirectFlow_id {f : Flow (Entry N)} (h : ∀ body ∈ f.bodies, redirectAll id body = body) :
    redirectFlow id f = f := by
  cases f with
  | conditional condition body elseIfs otherwise? =>
    have hrest : ∀ other ∈ elseIfs.map Branch.body ++ otherwise?.toList, redirectAll id other = other :=
      fun other hother => h other (.tail _ hother)
    rw [redirectFlow, Condition.redirect_id, h body (.head _), redirectElseIfs_eq_map,
      map_redirectAll_id Condition.redirect_id (List.forall_mem_append.1 hrest).1,
      redirectOption_id (List.forall_mem_append.1 hrest).2]
  | loop run body otherwise? =>
    rw [redirectFlow, h body (.head _), redirectOption_id fun other hother => h other (.tail _ hother)]
    rfl
  | binding bindings body => rw [redirectFlow, h body (.head _), Prod.map_id, List.map_id]
  | switch subject cases otherwise? =>
    rw [redirectFlow, redirectCases_eq_map,
      map_redirectAll_id (congrFun Operand.redirect_id) (List.forall_mem_append.1 h).1,
      redirectOption_id (List.forall_mem_append.1 h).2, id]

/-- **A redirection to the same paths is no change.** -/
theorem redirectAll_id : ∀ entries : List (Entry N), redirectAll id entries = entries := by
  refine Entry.induction (by rw [redirectAll]) fun e rest hparts hrest => ?_
  have he : redirect id e = e := by
    cases e with
    | static node => rw [redirect]
    | leaf text => rw [redirect, Interpolation.redirect_id, id]
    | element skeleton attributes children =>
      rw [redirect, hparts children (.head _), Interpolation.redirect_id, Prod.map_id, List.map_id]
    | flow f => rw [redirect, redirectFlow_id hparts]
  rw [redirectAll, he, hrest]

end Entry

end Stencil
