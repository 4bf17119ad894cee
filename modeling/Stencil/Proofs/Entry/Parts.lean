import Stencil.Template.Entry

/-!
# Proofs/Entry/Parts — what entries are put together from

An entry is put together from lists of entries: the children of an element, the bodies of a directive.
Whatever holds of lists of entries by way of these parts holds of all of them (`Entry.induction`).
-/

namespace Stencil

/-- The bodies of a directive. -/
def Flow.bodies {E : Type} : Flow E → List (List E)
  | .conditional _ body elseIfs otherwise? =>
      body :: (elseIfs.map Branch.body ++ otherwise?.toList)
  | .loop _ body otherwise? => body :: otherwise?.toList
  | .binding _ body => [body]
  | .switch _ cases otherwise? => cases.map Branch.body ++ otherwise?.toList

/-! ## Sizes

Bodies are smaller than their directive, and so induction on lists of entries is well-founded. -/

namespace Flow

variable {E : Type} [SizeOf E] {body : List E}

theorem sizeOf_lt_of_mem_branches {G : Type} [SizeOf G] {branches : List (Branch G E)}
    (h : body ∈ branches.map Branch.body) : sizeOf body < sizeOf branches := by
  obtain ⟨⟨guard, body⟩, hbranch, rfl⟩ := List.mem_map.1 h
  have hlist := List.sizeOf_lt_of_mem hbranch
  rw [Branch.mk.sizeOf_spec] at hlist
  dsimp only
  omega

theorem sizeOf_lt_of_mem_option {body? : Option (List E)} (h : body ∈ body?.toList) :
    sizeOf body < sizeOf body? := by
  obtain rfl := Option.mem_toList.1 h
  rw [Option.some.sizeOf_spec]
  omega

/-- The body of a directive is smaller than the directive. -/
theorem sizeOf_lt_of_mem_bodies {f : Flow E} (h : body ∈ f.bodies) : sizeOf body < sizeOf f := by
  cases f with
  | conditional condition own elseIfs otherwise? =>
    rw [conditional.sizeOf_spec]
    rcases List.mem_cons.1 h with rfl | h
    · omega
    · rcases List.mem_append.1 h with h | h
      · have := sizeOf_lt_of_mem_branches h
        omega
      · have := sizeOf_lt_of_mem_option h
        omega
  | loop run own otherwise? =>
    rw [loop.sizeOf_spec]
    rcases List.mem_cons.1 h with rfl | h
    · omega
    · have := sizeOf_lt_of_mem_option h
      omega
  | binding bindings own =>
    obtain rfl := List.mem_singleton.1 h
    rw [binding.sizeOf_spec]
    omega
  | switch subject cases otherwise? =>
    rw [switch.sizeOf_spec]
    rcases List.mem_append.1 h with h | h
    · have := sizeOf_lt_of_mem_branches h
      omega
    · have := sizeOf_lt_of_mem_option h
      omega

end Flow

namespace Entry

variable {N : Type}

/-- The lists of entries that an entry is put together from. -/
def parts : Entry N → List (List (Entry N))
  | static _ => []
  | leaf _ => []
  | element _ _ children => [children]
  | flow f => f.bodies

/-- An entry that is one of some entries or lies anywhere below them. -/
inductive Within (e : Entry N) : List (Entry N) → Prop
  | here {rest} : Within e (e :: rest)
  | part {x rest body} (mem : body ∈ x.parts) (inside : Within e body) : Within e (x :: rest)
  | later {x rest} (behind : Within e rest) : Within e (x :: rest)

/-! ## Induction -/

/-- **What an entry is put together from is smaller than the entry.** -/
theorem sizeOf_lt_of_mem_parts {e : Entry N} {body : List (Entry N)} (h : body ∈ e.parts) :
    sizeOf body < sizeOf e := by
  cases e with
  | static node => exact absurd h List.not_mem_nil
  | leaf text => exact absurd h List.not_mem_nil
  | element skeleton attributes children =>
    obtain rfl := List.mem_singleton.1 h
    rw [element.sizeOf_spec]
    omega
  | flow f =>
    have := Flow.sizeOf_lt_of_mem_bodies h
    rw [flow.sizeOf_spec]
    omega

/-- **Induction on lists of entries**: from the parts of the first entry and from the others to all. -/
theorem induction {P : List (Entry N) → Prop} (nil : P [])
    (cons : ∀ e rest, (∀ body ∈ e.parts, P body) → P rest → P (e :: rest)) :
    ∀ entries, P entries
  | [] => nil
  | e :: rest =>
      cons e rest (fun body _ => induction nil cons body) (induction nil cons rest)
termination_by entries => sizeOf entries
decreasing_by
  · have := sizeOf_lt_of_mem_parts ‹_›
    rw [List.cons.sizeOf_spec]
    omega
  · rw [List.cons.sizeOf_spec]
    omega

end Entry

end Stencil
