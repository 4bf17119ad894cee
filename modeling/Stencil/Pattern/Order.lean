import Stencil.Pattern.Matching

/-!
# Pattern/Order — matches stand in order

No thread begins behind the place it has come to, so a match ends where it begins or further on
(`start_le_stop`), and it ends within the text (`stop_le_length`).  The next match is looked for behind it.  So
the matches of a text stand in order and do not overlap (`inOrder_occurrences`), whatever the pattern.
-/

namespace Stencil

namespace Pattern

/-! ## Matches in order -/

/-- Matches in order between a place and the end of a text of some length: none goes beyond the text or
begins before the last has ended. -/
def InOrder (length : Nat) : (place : Nat) → List Match → Prop
  | place, [] => place ≤ length
  | place, m :: rest => place ≤ m.start ∧ m.start ≤ m.stop ∧ InOrder length m.stop rest

instance decidableInOrder (length : Nat) : (place : Nat) → (found : List Match) →
    Decidable (InOrder length place found)
  | place, [] => inferInstanceAs (Decidable (place ≤ length))
  | place, m :: rest =>
      have := decidableInOrder length m.stop rest
      inferInstanceAs (Decidable (place ≤ m.start ∧ m.start ≤ m.stop ∧ InOrder length m.stop rest))

namespace InOrder

variable {length place : Nat} {found : List Match}

theorem le_length : ∀ {place : Nat} {found : List Match}, InOrder length place found → place ≤ length
  | _, [], h => h
  | _, _ :: _, ⟨hplace, hspan, hrest⟩ => Nat.le_trans hplace (Nat.le_trans hspan (le_length hrest))

theorem of_le {earlier : Nat} (h : InOrder length place found) (hle : earlier ≤ place) :
    InOrder length earlier found := by
  rcases found with _ | ⟨m, rest⟩
  · exact Nat.le_trans hle h
  · exact ⟨Nat.le_trans hle h.1, h.2⟩

theorem of_mem {m : Match} : ∀ {place : Nat} {found : List Match}, InOrder length place found →
    m ∈ found → place ≤ m.start ∧ m.start ≤ m.stop ∧ m.stop ≤ length
  | _, n :: rest, ⟨hplace, hspan, hrest⟩, hm => by
    rcases List.mem_cons.1 hm with rfl | hm
    · exact ⟨hplace, hspan, hrest.le_length⟩
    · obtain ⟨hstart, hstop⟩ := of_mem hrest hm
      exact ⟨by omega, hstop⟩

end InOrder

/-! ## Where threads begin -/

namespace Thread

/-- What becomes of a thread began where the thread did or begins here. -/
theorem began_of_mem_branches {gap : Gap} {t u : Thread} {ts : List Thread}
    (h : t.branches? gap = some ts) (hu : u ∈ ts) : u.began = t.began ∨ u.began = gap.position := by
  have hmap : ∀ goals : List (List Goal), u ∈ goals.map t.withGoals → u.began = t.began := by
    intro goals hu
    obtain ⟨_, -, rfl⟩ := List.mem_map.1 hu
    rfl
  obtain ⟨goals, began, entered, span?⟩ := t
  rcases goals with _ | ⟨goal, rest⟩
  · exact nomatch h
  · rcases goal with p | ⟨p, greedy⟩ | _ | p
    · rcases p with _ | cls | e | ⟨p, q⟩ | ⟨p, q⟩ | ⟨number, p⟩ | ⟨p, greedy⟩ | ⟨p, greedy⟩ | ⟨p, greedy⟩
      case one => exact nomatch h
      case edge =>
        obtain rfl := Option.some.inj h
        split at hu
        · exact .inl (hmap [rest] hu)
        · exact nomatch hu
      case group =>
        change ite _ _ _ = _ at h
        split at h
        · obtain rfl := Option.some.inj h
          exact .inl (List.mem_singleton.1 hu ▸ rfl)
        · obtain rfl := Option.some.inj h
          exact .inl (List.mem_singleton.1 hu ▸ rfl)
      all_goals obtain rfl := Option.some.inj h
      case empty => exact .inl (hmap [rest] hu)
      case seq => exact .inl (hmap [.pattern p :: .pattern q :: rest] hu)
      case alt => exact .inl (hmap [.pattern p :: rest, .pattern q :: rest] hu)
      case plus => exact .inl (hmap [.pattern p :: .again p greedy :: rest] hu)
      all_goals exact .inl (hmap _ hu)
    · obtain rfl := Option.some.inj h
      exact .inl (hmap _ hu)
    · obtain rfl := Option.some.inj h
      exact .inl (List.mem_singleton.1 hu ▸ rfl)
    · obtain rfl := Option.some.inj h
      rcases List.mem_cons.1 hu with rfl | hu
      · exact .inr rfl
      · exact .inl (List.mem_singleton.1 hu ▸ rfl)

/-- **Following threads to where they wait lets none begin later than here.** -/
theorem began_le_of_mem_settle {gap : Gap} {u : Thread} : ∀ {fuel : Nat}
    {seen : List (List Goal)} {ts : List Thread}, (∀ t ∈ ts, t.began ≤ gap.position) →
      u ∈ settle gap fuel seen ts → u.began ≤ gap.position
  | 0, _, _, _, hu => by
      rw [settle] at hu
      exact nomatch hu
  | fuel + 1, _, [], _, hu => by
      rw [settle.eq_2 _ _ _ (Nat.succ_ne_zero fuel)] at hu
      exact nomatch hu
  | fuel + 1, seen, t :: rest, h, hu => by
      have hrest : ∀ t ∈ rest, t.began ≤ gap.position := fun t ht => h t (.tail _ ht)
      rw [settle] at hu
      split at hu
      · exact began_le_of_mem_settle hrest hu
      · split at hu
        · rcases List.mem_cons.1 hu with rfl | hu
          · exact h _ (.head _)
          · exact began_le_of_mem_settle hrest hu
        · next ts hts =>
          refine began_le_of_mem_settle (fun t' ht' => ?_) hu
          rcases List.mem_append.1 ht' with ht' | ht'
          · rcases began_of_mem_branches hts ht' with hbegan | hbegan
            · exact hbegan ▸ h t (.head _)
            · exact Nat.le_of_eq hbegan
          · exact hrest t' ht'

/-- Reading a character does not change where a thread began. -/
theorem began_of_read {c : Char} {t u : Thread} (h : t.read? c = some u) : u.began = t.began := by
  rw [read?] at h
  split at h
  · split at h
    · obtain rfl := Option.some.inj h
      rfl
    · cases h
  · cases h

end Thread

/-! ## Matches -/

/-- **A match ends where it begins or further on.** -/
theorem start_le_stop_of_search {p : Pattern} {m : Match} : ∀ {position : Nat}
    {threads : List Thread} {best? : Option Match} {rest : List Char},
    (∀ t ∈ threads, t.began ≤ position) → (∀ b, best? = some b → b.start ≤ b.stop) →
      search p position threads best? rest = some m → m.start ≤ m.stop
  | position, threads, best?, rest, hthreads, hbest, h => by
      have hbest' : ∀ b,
          ((threads.find? (·.isDone)).map (Match.ofThread position)).or best? = some b →
            b.start ≤ b.stop := by
        intro b hb
        rcases hfound : threads.find? (·.isDone) with _ | t
        · rw [hfound] at hb
          exact hbest b hb
        · rw [hfound] at hb
          obtain rfl := Option.some.inj hb
          exact hthreads t (List.mem_of_find?_eq_some hfound)
      rcases rest with _ | ⟨c, rest⟩
      · rw [search] at h
        exact hbest' m h
      · rw [search] at h
        split at h
        · exact hbest' m h
        · refine start_le_stop_of_search (fun t ht => ?_) hbest' h
          refine Thread.began_le_of_mem_settle (fun u hu => ?_) ht
          obtain ⟨t', ht', hread⟩ := List.mem_filterMap.1 hu
          have hbegan := hthreads t' (List.takeWhile_subset _ ht')
          rw [Thread.began_of_read hread]
          exact Nat.le_succ_of_le hbegan

theorem start_le_stop {p : Pattern} {before? : Option Char} {cs : List Char} {m : Match}
    (h : p.find? before? cs = some m) : m.start ≤ m.stop := by
  refine start_le_stop_of_search (fun t ht => ?_) (fun b hb => absurd hb (Option.some_ne_none b).symm) h
  refine Thread.began_le_of_mem_settle (fun u hu => ?_) ht
  obtain rfl := List.mem_singleton.1 hu
  exact Nat.le_refl 0

/-- No match goes beyond the text. -/
theorem stop_le_of_search {p : Pattern} {m : Match} : ∀ {position : Nat} {threads : List Thread}
    {best? : Option Match} {rest : List Char}, (∀ b, best? = some b → b.stop ≤ position) →
      search p position threads best? rest = some m → m.stop ≤ position + rest.length
  | position, threads, best?, rest, hbest, h => by
      have hbest' : ∀ b,
          ((threads.find? (·.isDone)).map (Match.ofThread position)).or best? = some b →
            b.stop ≤ position := by
        intro b hb
        rcases hfound : threads.find? (·.isDone) with _ | t
        · rw [hfound] at hb
          exact hbest b hb
        · rw [hfound] at hb
          obtain rfl := Option.some.inj hb
          exact Nat.le_refl position
      rcases rest with _ | ⟨c, rest⟩
      · rw [search] at h
        exact hbest' m h
      · rw [search] at h
        split at h
        · exact Nat.le_add_right_of_le (hbest' m h)
        · have hstop := stop_le_of_search (fun b hb => Nat.le_succ_of_le (hbest' b hb)) h
          rw [List.length_cons]
          omega

theorem stop_le_length {p : Pattern} {before? : Option Char} {cs : List Char} {m : Match}
    (h : p.find? before? cs = some m) : m.stop ≤ cs.length := by
  have hstop := stop_le_of_search (fun b hb => absurd hb.symm (Option.some_ne_none b)) h
  omega

/-! ## The matches of a text -/

theorem inOrder_occurrencesFrom (p : Pattern) : ∀ (fuel : Nat) (adjacent : Bool)
    (before? : Option Char) (place : Nat) (cs : List Char),
    InOrder (place + cs.length) place (occurrencesFrom p fuel adjacent before? place cs)
  | 0, _, _, place, cs => Nat.le_add_right place cs.length
  | fuel + 1, adjacent, before?, place, cs => by
    rw [occurrencesFrom]
    rcases hfound : p.find? before? cs with _ | m
    · exact Nat.le_add_right place cs.length
    · have hspan := start_le_stop hfound
      have hstop := stop_le_length hfound
      have hbehind := inOrder_occurrencesFrom p fuel
      -- the match itself, if it is not refused, stands in front of what is found behind it
      have hown : ∀ rest, InOrder (place + cs.length) (place + m.stop) rest →
          InOrder (place + cs.length) place
            ((if adjacent ∧ m.stop = 0 then [] else [m.shift place]) ++ rest) := by
        intro rest hrest
        split
        · exact hrest.of_le (Nat.le_add_right _ _)
        · exact ⟨Nat.le_add_right _ _, Nat.add_le_add_left hspan place, hrest⟩
      simp only
      split
      · have hrest := hbehind true ((cs.take m.stop).getLast?.or before?) (place + m.stop) (cs.drop m.stop)
        rw [List.length_drop, Nat.add_assoc, Nat.add_sub_cancel' hstop] at hrest
        exact hown _ hrest
      · rcases hdrop : cs.drop m.stop with _ | ⟨c, rest⟩
        · exact hown [] (Nat.add_le_add_left hstop place)
        · have hlength := congrArg List.length hdrop
          rw [List.length_drop, List.length_cons] at hlength
          have hrest := hbehind false (some c) (place + m.stop + 1) rest
          rw [show place + m.stop + 1 + rest.length = place + cs.length by omega] at hrest
          exact hown _ (hrest.of_le (Nat.le_succ _))

/-- **The matches of a text stand in order.** -/
theorem inOrder_occurrences (p : Pattern) (cs : List Char) : InOrder cs.length 0 (p.occurrences cs) := by
  have h := inOrder_occurrencesFrom p (cs.length + 1) false none 0 cs
  rwa [Nat.zero_add] at h

end Pattern

end Stencil
