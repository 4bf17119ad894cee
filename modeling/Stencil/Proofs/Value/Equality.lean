import Stencil.Proofs.Except
import Stencil.Proofs.Number.ReadBack
import Stencil.Render.Condition

/-!
# Proofs/Value/Equality — equality of scalars

Equality asks for numbers where both sides spell one, and for texts otherwise.  The two tests never
cross: a scalar has a number exactly if its text spells one (`Value.isSome_numeric?`), so no text is
shared by a scalar with a number and one without.  So a scalar is compared by one key, where its number
lies or else its text (`Value.same_eq_true`), and what an operand stands for decides alone
(`Scope.equals_eq_ok`).
-/

namespace Stencil

/-! ## Equality of doubles -/

namespace Double

/-- Where a number lies: so many units from zero, or at the infinity with this sign. -/
def place? : Double → Option (Int ⊕ Bool)
  | finite x => some (.inl x.units)
  | infinity negative => some (.inr negative)
  | nan => none

/-- Two numbers are equal if they lie at one place. -/
theorem equals_eq_true {x y : Double} (hx : x ≠ nan) : x.equals y = true ↔ x.place? = y.place? := by
  rw [equals, decide_eq_true_iff]
  rcases x with x | a | _
  · rcases y with y | b | _
    · simp [compare?, place?]
    · rcases b with _ | _ <;> simp [compare?, place?]
    · simp [compare?, place?]
  · rcases y with y | b | _
    · rcases a with _ | _ <;> simp [compare?, place?]
    · rcases a with _ | _ <;> rcases b with _ | _ <;> decide
    · simp [compare?, place?]
  · exact absurd rfl hx

end Double

/-! ## The debug texts

Moments, qualified names and identifiers have the text that the library of values writes for debugging.  Of
that format only this is used: it spells no number (`Value.spelled?_debugText`). -/

namespace Moment

open Decimal (Digits)

theorem digits_padded (width n : Nat) : Digits (padded width n) :=
  (Decimal.digits_replicate_zero _).append (Decimal.digits_toDigits n)

theorem not_isBlank_dateText (d : Date) : ∀ c ∈ dateText d, Text.isBlank c = false := by
  have hpadded : ∀ width n, ∀ c ∈ padded width n, Text.isBlank c = false :=
    fun width n c hc => Text.isBlank_of_isDigit (digits_padded width n c hc)
  have hhyphen : Text.isBlank '-' = false := by decide
  have hyear : ∀ c ∈ yearText d.year, Text.isBlank c = false := by
    rw [yearText]
    split
    · exact List.forall_mem_cons.2 ⟨hhyphen, hpadded _ _⟩
    · exact hpadded _ _
  simp only [dateText, List.forall_mem_append, List.forall_mem_cons]
  exact ⟨⟨hyear, hhyphen, hpadded _ _⟩, hhyphen, hpadded _ _⟩

/-- A date has a hyphen in front of the month and of the day, and one before the year if it is negative. -/
theorem count_hyphen_dateText (d : Date) :
    (dateText d).count '-' = if (dateText d).head? = some '-' then 3 else 2 := by
  have hpadded : ∀ width n, (padded width n).count '-' = 0 :=
    fun width n => (digits_padded width n).count_hyphen
  have hcount : (dateText d).count '-' = (yearText d.year).count '-' + 2 := by
    simp only [dateText, List.count_append, List.count_cons_self, hpadded]
  rw [hcount, yearText, dateText, yearText]
  split
  · rw [List.count_cons_self, hpadded]
    rfl
  · have hsome : padded 4 d.year.natAbs ≠ [] :=
      fun h => Nat.toDigits_ne_nil (List.append_eq_nil_iff.1 h).2
    obtain ⟨c, rest, hc⟩ := List.exists_cons_of_ne_nil hsome
    have hdigit : c.isDigit = true := digits_padded 4 d.year.natAbs c (hc ▸ .head _)
    have hne : c ≠ '-' := (Decimal.ne_sign_of_isDigit hdigit).1
    rw [hpadded, hc, List.append_assoc, List.cons_append, List.head?_cons,
      if_neg fun h => hne (Option.some.inj h)]

/-- No date spells a number: it has too many hyphens. -/
theorem spelled?_dateText (d : Date) : Double.spelled? (String.ofList (dateText d)) = none := by
  rcases hx : Double.spelled? (String.ofList (dateText d)) with _ | x
  · rfl
  have hfew := Double.count_hyphen_of_spelled? hx (by
    rw [String.toList_ofList]
    exact not_isBlank_dateText d)
  rw [String.toList_ofList, count_hyphen_dateText] at hfew
  split at hfew <;> omega

/-- No moment spells a number. -/
theorem spelled?_text (m : Moment) : Double.spelled? m.text = none := by
  have hforeign : ∀ {s : String} (c : Char), c = ':' ∨ c = 'T' → c ∈ s.toList →
      Double.spelled? s = none := by
    rintro s c (rfl | rfl) hc <;> exact Double.spelled?_eq_none_of_mem hc (by decide) (by decide)
  rcases m with d | c | ⟨d, c⟩ | ⟨d, c, offset⟩
  · exact spelled?_dateText d
  · exact hforeign ':' (.inl rfl) (by simp [text, clockText])
  · exact hforeign 'T' (.inr rfl) (by simp [text])
  · exact hforeign 'T' (.inr rfl) (by simp [text])

end Moment

/-- No qualified name spells a number: there is a quote in its text. -/
theorem QualifiedName.spelled?_text (q : QualifiedName) : Double.spelled? q.text = none := by
  have hquoted : '"' ∈ (Text.quoted q.name).toList := by simp [Text.quoted]
  have hmem : '"' ∈ q.text.toList := by
    rw [text.eq_def]
    split
    · exact hquoted
    · rw [String.toList_append]
      exact List.mem_append_right _ hquoted
  exact Double.spelled?_eq_none_of_mem hmem (by decide) (by decide)

/-- No identifier spells a number: it has too many hyphens. -/
theorem spelled?_uuidText (bits : BitVec 128) : Double.spelled? (uuidText bits) = none := by
  rcases hx : Double.spelled? (uuidText bits) with _ | x
  · rfl
  have hfew := (Double.spelling_of_spelled? hx).count_hyphen
  rw [Text.count_trim (by decide), uuidText, String.toList_ofList] at hfew
  simp only [List.count_append, List.count_cons_self] at hfew
  split at hfew <;> omega

namespace Value

/-- **No debug text spells a number.** -/
theorem spelled?_debugText {v : Value} {text : String} (h : v.debugText? = some text) :
    Double.spelled? text = none := by
  rcases v with _ | b | n | s | bytes | m | q | bits | items | written
  case moment => exact Option.some.inj h ▸ m.spelled?_text
  case name => exact Option.some.inj h ▸ q.spelled?_text
  case uuid => exact Option.some.inj h ▸ spelled?_uuidText bits
  all_goals exact absurd h.symm (Option.some_ne_none text)

/-! ## Scalars -/

/-- The value is neither a sequence nor a mapping. -/
def IsScalar (v : Value) : Prop := v.kind ≠ .sequence ∧ v.kind ≠ .mapping

/-- The scalars are the values with a text. -/
theorem isScalar_iff {v : Value} : v.IsScalar ↔ v.text?.isSome = true := by
  cases v <;> simp [IsScalar, kind, text?, debugText?]

/-- **A scalar has a number exactly if its text spells one.** -/
theorem isSome_numeric? {v : Value} {text : String} (h : v.text? = some text) :
    v.numeric?.isSome = (Double.spelled? text).isSome := by
  have hforeign : ∀ {s : String} (c : Char), c ∈ s.toList → Text.isBlank c = false →
      Spelling.uses c = false → none.isSome = (Double.spelled? s).isSome :=
    fun c hc hblank huses => congrArg _ (Double.spelled?_eq_none_of_mem hc hblank huses).symm
  rcases v with _ | b | n | s | bytes | m | q | bits | items | written
  case sequence => exact absurd h.symm (Option.some_ne_none text)
  case mapping => exact absurd h.symm (Option.some_ne_none text)
  case moment => exact congrArg Option.isSome (spelled?_debugText (v := .moment m) h).symm
  case name => exact congrArg Option.isSome (spelled?_debugText (v := .name q) h).symm
  case uuid => exact congrArg Option.isSome (spelled?_debugText (v := .uuid bits) h).symm
  all_goals obtain rfl := Option.some.inj h
  case null => exact hforeign 'u' (by decide) (by decide) (by decide)
  case bool =>
    rcases b with _ | _
    · exact hforeign 'l' (by decide) (by decide) (by decide)
    · exact hforeign 'u' (by decide) (by decide) (by decide)
  case number => exact n.isSome_spelled?_text.symm
  case string => rfl
  case bytes => exact hforeign '<' (by simp) (by decide) (by decide)

/-- The number of a scalar is not `nan`. -/
theorem ne_nan_of_numeric? {v : Value} {x : Double} (h : v.numeric? = some x) : x ≠ .nan := by
  rcases v with _ | b | n | s | bytes | m | q | bits | items | written
  case number => exact Option.some.inj h ▸ n.toDouble_ne_nan
  case string => exact Double.ne_nan_of_spelled? h
  all_goals exact absurd h.symm (Option.some_ne_none x)

/-! ## Equality -/

/-- Whether two scalars are equal. -/
def same (u v : Value) : Bool :=
  match u.text?, v.text? with
  | some a, some b => sameForms (a, u.numeric?) (b, v.numeric?)
  | _, _ => false

/-- What a scalar is compared by: where its number lies, or else its text. -/
def key (v : Value) : Option (Int ⊕ Bool) ⊕ Option String :=
  match v.numeric? with
  | some x => .inl x.place?
  | none => .inr v.text?

/-- **Scalars are equal if they are compared by the same.** -/
theorem same_eq_true {u v : Value} (hu : u.IsScalar) (hv : v.IsScalar) :
    u.same v = true ↔ u.key = v.key := by
  obtain ⟨a, ha⟩ := Option.isSome_iff_exists.1 (isScalar_iff.1 hu)
  obtain ⟨b, hb⟩ := Option.isSome_iff_exists.1 (isScalar_iff.1 hv)
  have hcross : a = b → u.numeric?.isSome = v.numeric?.isSome := by
    rintro rfl
    rw [isSome_numeric? ha, isSome_numeric? hb]
  simp only [same, key, ha, hb, sameForms]
  rcases hx : u.numeric? with _ | x <;> rcases hy : v.numeric? with _ | y
  · simp
  · simp only [hx, hy] at hcross
    simpa using hcross
  · simp only [hx, hy] at hcross
    simpa using hcross
  · simpa using Double.equals_eq_true (ne_nan_of_numeric? hx)

end Value

/-! ## What operands stand for -/

theorem Scope.lookup_eq_ok {scope : Scope} {p : Path} {v : Value} :
    scope.lookup p = .ok v ↔ scope.find? p = some v := by
  rw [lookup]
  rcases scope.find? p with _ | w <;> simp

/-- The value that an operand stands for. -/
def Operand.value? (scope : Scope) : Operand → Option Value
  | literal text => some (.string text)
  | path p => scope.find? p

/-- A path has forms if it leads to a scalar, and then the forms of this scalar. -/
theorem Operand.forms_eq_ok {scope : Scope} {operand : Operand} {form : String × Option Double} :
    operand.forms scope = .ok form ↔
      ∃ v, operand.value? scope = some v ∧ v.text? = some form.1 ∧ v.numeric? = form.2 := by
  rcases operand with text | p
  · simp only [forms, value?, Except.ok.injEq, Option.some.injEq, exists_eq_left', Value.text?,
      Value.numeric?]
    exact ⟨fun h => h ▸ ⟨rfl, rfl⟩, fun h => Prod.ext h.1 h.2⟩
  · rw [forms, value?, Scope.string, Scope.view, Scope.lookup]
    rcases scope.find? p with _ | v
    · simp [bind, Except.bind]
    rcases htext : v.text? with _ | text
    · simp [bind, Except.bind, htext]
    · simp only [bind, Except.bind, htext, Except.ok.injEq, Option.some.injEq, exists_eq_left']
      exact ⟨fun h => h ▸ ⟨rfl, rfl⟩, fun h => Prod.ext h.1 h.2⟩

/-- **Equality at a path** is equality of the scalars that the path and the operand stand for. -/
theorem Scope.equals_eq_ok {scope : Scope} {p : Path} {operand : Operand} {equal : Bool} :
    scope.equals p operand = .ok equal ↔
      ∃ u v, scope.find? p = some u ∧ operand.value? scope = some v ∧ u.IsScalar ∧ v.IsScalar ∧
        u.same v = equal := by
  refine ⟨fun h => ?_, ?_⟩
  · rw [equals] at h
    obtain ⟨own, hown, h⟩ := Except.ok_of_bind h
    obtain ⟨other, hother, h⟩ := Except.ok_of_bind h
    obtain ⟨u, hu, hutext, hunumber⟩ := Operand.forms_eq_ok.1 hown
    obtain ⟨v, hv, hvtext, hvnumber⟩ := Operand.forms_eq_ok.1 hother
    refine ⟨u, v, hu, hv, Value.isScalar_iff.2 (Option.isSome_of_eq_some hutext),
      Value.isScalar_iff.2 (Option.isSome_of_eq_some hvtext), ?_⟩
    simp only [Value.same, hutext, hvtext, hunumber, hvnumber]
    exact Except.ok.inj h
  · rintro ⟨u, v, hu, hv, huscalar, hvscalar, rfl⟩
    obtain ⟨a, ha⟩ := Option.isSome_iff_exists.1 (Value.isScalar_iff.1 huscalar)
    obtain ⟨b, hb⟩ := Option.isSome_iff_exists.1 (Value.isScalar_iff.1 hvscalar)
    have hown : (Operand.path p).forms scope = .ok (a, u.numeric?) :=
      Operand.forms_eq_ok.2 ⟨u, hu, ha, rfl⟩
    have hother : operand.forms scope = .ok (b, v.numeric?) :=
      Operand.forms_eq_ok.2 ⟨v, hv, hb, rfl⟩
    rw [equals, hown, hother]
    simp only [Value.same, ha, hb]
    rfl

end Stencil
