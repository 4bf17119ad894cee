import Stencil.Proofs.Entry.Nesting
import Stencil.Proofs.Value.Equality

/-!
# Proofs/Value/OwnText — a scalar is equal to its own text

A scalar without a number has a text that spells none, so it is compared as a text, with itself.  A
scalar with a number has a text that spells the number again.  A double does so by being shown in a
decimal that reads back; shown as a whole number it is the double that this number is cast back to, at the
upper ends of the 64-bit ranges too, where the number shown is not the value (`Double.place?_shownWhole?`).
-/

namespace Stencil

/-! ## Doubles shown as whole numbers -/

namespace Double

/-- **A double is shown as a whole number that lies where it does**, as this number is cast back to it. -/
theorem place?_shownWhole? {x : Finite} {z : Int} (h : Number.shownWhole? x = some z) :
    (ofInt z).place? = (finite x).place? := by
  have hback : ∀ {low high : Int}, Number.within? low high x = some z →
      (ofInt z).place? = (finite x).place? := by
    intro low high hwithin
    rw [Number.within?, Option.ite_none_right_eq_some, Option.some.injEq] at hwithin
    obtain ⟨hequals, hz⟩ := hwithin
    rw [hz] at hequals
    exact (equals_eq_true (ofInt_ne_nan z)).1 hequals
  rw [Number.shownWhole?, Option.or_eq_some_iff] at h
  exact h.elim hback fun hunsigned => hback hunsigned.2

end Double

/-! ## The text of a scalar -/

/-- **The text of a number spells a number at the same place.** -/
theorem Number.place?_spelled?_text (n : Number) :
    ∃ x, Double.spelled? n.text = some x ∧ x.place? = n.toDouble.place? := by
  rcases n with z | x
  · exact ⟨_, spelled?_wholeText z, rfl⟩
  · rw [text]
    rcases hshown : shownWhole? x with _ | z
    · exact ⟨_, x.spelled?_text, rfl⟩
    · exact ⟨_, spelled?_wholeText z, Double.place?_shownWhole? hshown⟩

/-- **A scalar is compared by what its text is compared by.** -/
theorem Value.key_ownText {v : Value} {s : String} (h : v.text? = some s) :
    (Value.string s).key = v.key := by
  have hsome := isSome_numeric? h
  rcases hnumber : v.numeric? with _ | x
  · have hstring : (Value.string s).numeric? = none := by
      rw [hnumber] at hsome
      exact Option.not_isSome_iff_eq_none.1 (by rw [numeric?, ← hsome]; exact Bool.false_ne_true)
    simp only [key, hnumber, hstring]
    exact congrArg Sum.inr h.symm
  rcases v with _ | b | n | s' | bytes | m | q | bits | items | written
  case number =>
    obtain rfl := Option.some.inj h
    obtain ⟨y, hy, hplace⟩ := n.place?_spelled?_text
    simp only [key, numeric?, hy, hplace]
  case string =>
    obtain rfl := Option.some.inj h
    rfl
  all_goals exact absurd hnumber.symm (Option.some_ne_none x)

/-! ## A case that is taken -/

/-- Behind cases that fail, a case that holds is taken. -/
theorem Entry.renderCases_of_holds {N : Type} [Host N] {scope : Scope} {subject : Path}
    {front : List (Branch Operand (Entry N))}
    (hfails : ∀ earlier ∈ front, scope.equals subject earlier.guard = .ok false)
    {operand : Operand} (hholds : scope.equals subject operand = .ok true) (body : List (Entry N))
    (back : List (Branch Operand (Entry N))) (fallback : Unit → Rendering N) (n : Nat) :
    renderCases scope subject n (front ++ ⟨operand, body⟩ :: back) fallback =
      .decision (.caseMatched subject (n + front.length)) fun _ =>
        (renderEach scope body).untilError := by
  induction front generalizing n with
  | nil => simp only [List.nil_append, renderCases, hholds, List.length_nil, Nat.add_zero]
  | cons earlier rest ih =>
    obtain ⟨guard, own⟩ := earlier
    have hguard : scope.equals subject guard = .ok false := hfails ⟨guard, own⟩ (.head rest)
    simp only [List.cons_append, renderCases, hguard, List.length_cons]
    rw [ih (fun other hother => hfails other (.tail _ hother)), Nat.add_right_comm n 1, Nat.add_assoc]

/-- **A scalar is equal to its own text**, as a condition and as a case: a path with a scalar has a text,
the condition that the path is equal to this text holds, and a switch on the path takes the case with
this text if it takes none before it. -/
theorem Scope.equals_ownText (scope : Scope) (p : Path) (v : Value) (hp : scope.lookup p = .ok v)
    (hv : v.IsScalar) :
    ∃ s, scope.string p = .ok s ∧
      (Condition.equalTo p (.literal s)).evaluate scope = .ok true ∧
      ∀ {N : Type} [Host N] (front : List (Branch Operand (Entry N))) (body : List (Entry N))
        (back : List (Branch Operand (Entry N))) (otherwise? : Option (List (Entry N))),
        (∀ earlier ∈ front, scope.equals p earlier.guard = .ok false) →
          Entry.renderFlow scope (.switch p (front ++ ⟨.literal s, body⟩ :: back) otherwise?) =
            .decision (.caseMatched p front.length) fun _ =>
              (Entry.renderEach scope body).untilError := by
  obtain ⟨s, hs⟩ := Option.isSome_iff_exists.1 (Value.isScalar_iff.1 hv)
  have hliteral : (Value.string s).IsScalar := Value.isScalar_iff.2 rfl
  have hequals : scope.equals p (.literal s) = .ok true :=
    Scope.equals_eq_ok.2 ⟨v, .string s, Scope.lookup_eq_ok.1 hp, rfl, hv, hliteral,
      (Value.same_eq_true hv hliteral).2 (Value.key_ownText hs).symm⟩
  refine ⟨s, ?_, ?_, fun front body back otherwise? hfails => ?_⟩
  · rw [string, view, hp]
    simp only [hs]
  · rw [Condition.evaluate_equalTo, hequals]
  · rw [Entry.renderFlow, Entry.renderCases_of_holds hfails hequals, Nat.zero_add]

/-- `2^63` is shown as one less, and this literal is equal to it, behind another one. -/
theorem Scope.equals_ownText_power :
    let scope : Scope := .ofRoot (.mapping [("power", .number (.float ⟨false, leastFull, 1085, by decide⟩))])
    let write (text : String) : List (Entry Node) := [.leaf ⟨[], text⟩]
    scope.string ⟨"power"⟩ = .ok "9223372036854775807" ∧
      (Condition.equalTo ⟨"power"⟩ (.literal "9223372036854775807")).evaluate scope = .ok true ∧
      Entry.renderFlow scope (.switch ⟨"power"⟩
        [⟨.literal "9223372036854774784", write "a"⟩, ⟨.literal "9223372036854775807", write "b"⟩] none) =
          .decision (.caseMatched ⟨"power"⟩ 1) fun _ => (Entry.renderEach scope (write "b")).untilError := by
  intro scope write
  have hstring : scope.string ⟨"power"⟩ = .ok "9223372036854775807" := by decide +kernel
  obtain ⟨s, hs, hcondition, hswitch⟩ := Scope.equals_ownText scope ⟨"power"⟩ _ rfl ⟨by decide, by decide⟩
  obtain rfl : s = "9223372036854775807" := Except.ok.inj (hs.symm.trans hstring)
  refine ⟨hs, hcondition, hswitch [⟨.literal "9223372036854774784", write "a"⟩] (write "b") [] none ?_⟩
  intro earlier hearlier
  obtain rfl := List.mem_singleton.1 hearlier
  decide +kernel

end Stencil
