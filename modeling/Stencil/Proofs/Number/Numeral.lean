import Stencil.Number.Decimal

/-!
# Proofs/Number/Numeral — what a decimal numeral is

A numeral is a sign or none, digits, a point with digits behind it or none, and `e` or `E` with a whole
number behind it or nothing; it needs a digit in front of the point or behind it.  Reading takes these
texts and no other (`read?_eq_some`).
-/

namespace Stencil

namespace Decimal

/-! ## The grammar -/

/-- Nothing but digits. -/
def Digits (cs : List Char) : Prop := ∀ c ∈ cs, c.isDigit = true

/-- A sign or none, and whether it is a minus. -/
inductive SignOf : List Char → Bool → Prop
  | none : SignOf [] false
  | plus : SignOf ['+'] false
  | minus : SignOf ['-'] true

/-- A whole number: a sign or none, and digits. -/
inductive WholeOf : List Char → Int → Prop
  | mk {sign negative ds} (hsign : SignOf sign negative) (hsome : ds ≠ []) (hdigits : Digits ds) :
      WholeOf (sign ++ ds) (if negative then -(ofDigits ds : Int) else ofDigits ds)

/-- A point with digits behind it or none, and these digits. -/
inductive FractionOf : List Char → List Char → Prop
  | none : FractionOf [] []
  | some {ds} (hdigits : Digits ds) : FractionOf ('.' :: ds) ds

/-- An exponent or none, and its value. -/
inductive ExponentOf : List Char → Int → Prop
  | none : ExponentOf [] 0
  | some {e cs exponent} (he : e = 'e' ∨ e = 'E') (whole : WholeOf cs exponent) :
      ExponentOf (e :: cs) exponent

/-- **A numeral and the number it spells.** -/
inductive Spells : List Char → Decimal → Prop
  | mk {sign negative whole point fraction last exponent} (hsign : SignOf sign negative)
      (hwhole : Digits whole) (hpoint : FractionOf point fraction) (hsome : whole ++ fraction ≠ [])
      (hlast : ExponentOf last exponent) :
      Spells (sign ++ (whole ++ (point ++ last)))
        ⟨negative, ofDigits (whole ++ fraction), exponent - fraction.length⟩

/-! ## Parts of a numeral -/

/-- A text that does not go on with a digit. -/
def EndsDigits (cs : List Char) : Prop := ∀ c rest, cs = c :: rest → c.isDigit = false

/-- A run of digits ends where no digit follows. -/
theorem takeWhile_digits {ds rest : List Char} (hdigits : Digits ds) (hrest : EndsDigits rest) :
    (ds ++ rest).takeWhile Char.isDigit = ds ∧ (ds ++ rest).dropWhile Char.isDigit = rest := by
  rw [List.takeWhile_append_of_pos hdigits, List.dropWhile_append_of_pos hdigits]
  rcases rest with _ | ⟨c, rest⟩
  · exact ⟨List.append_nil ds, rfl⟩
  · have hc : ¬ c.isDigit = true := by rw [hrest c rest rfl]; exact Bool.false_ne_true
    rw [List.takeWhile_cons_of_neg hc, List.dropWhile_cons_of_neg hc]
    exact ⟨List.append_nil ds, rfl⟩

theorem digits_takeWhile (cs : List Char) : Digits (cs.takeWhile Char.isDigit) := by
  intro c hc
  induction cs with
  | nil => exact nomatch hc
  | cons d rest ih =>
    rw [List.takeWhile_cons] at hc
    split at hc
    · next hd =>
      rcases List.mem_cons.1 hc with rfl | hc
      · exact hd
      · exact ih hc
    · exact nomatch hc

theorem digits_iff {ds : List Char} : Digits ds ↔ ds.all Char.isDigit = true :=
  List.all_eq_true.symm

/-- What is split off is a sign, with the rest behind it. -/
theorem splitSign_spec (cs : List Char) :
    ∃ sign, cs = sign ++ (splitSign cs).2 ∧ SignOf sign (splitSign cs).1 := by
  rw [splitSign.eq_def]
  split
  · exact ⟨['-'], rfl, .minus⟩
  · exact ⟨['+'], rfl, .plus⟩
  · exact ⟨[], rfl, .none⟩

/-- A sign is split off from what begins with none. -/
theorem splitSign_append {sign rest : List Char} {negative : Bool} (hsign : SignOf sign negative)
    (hrest : ∀ c others, rest = c :: others → c ≠ '-' ∧ c ≠ '+') :
    splitSign (sign ++ rest) = (negative, rest) := by
  rcases hsign with _ | _ | _
  · rw [List.nil_append, splitSign.eq_def]
    split
    · exact absurd rfl (hrest _ _ rfl).1
    · exact absurd rfl (hrest _ _ rfl).2
    · rfl
  · rfl
  · rfl

/-- A digit is no sign. -/
theorem ne_sign_of_isDigit {c : Char} (h : c.isDigit = true) : c ≠ '-' ∧ c ≠ '+' := by
  refine ⟨?_, ?_⟩
  · rintro rfl
    exact absurd h (by decide)
  · rintro rfl
    exact absurd h (by decide)

/-- **Reading a whole number takes a sign or none and digits.** -/
theorem readWhole?_eq_some {cs : List Char} {x : Int} : readWhole? cs = some x ↔ WholeOf cs x := by
  refine ⟨fun h => ?_, ?_⟩
  · obtain ⟨sign, hcs, hsign⟩ := splitSign_spec cs
    rw [readWhole?] at h
    simp only at h
    split at h
    · next hds =>
      obtain rfl := Option.some.inj h
      have hwhole := WholeOf.mk hsign hds.1 (digits_iff.2 hds.2)
      rw [← hcs] at hwhole
      exact hwhole
    · exact nomatch h
  · rintro ⟨hsign, hsome, hdigits⟩
    rename_i sign negative ds
    have hsplit : splitSign (sign ++ ds) = (negative, ds) := by
      refine splitSign_append hsign fun c others hds => ne_sign_of_isDigit (hdigits c ?_)
      exact hds ▸ .head _
    rw [readWhole?, hsplit]
    exact if_pos ⟨hsome, digits_iff.1 hdigits⟩

/-- Reading an exponent takes nothing, or an `e` and a whole number. -/
theorem readExponent?_eq_some {cs : List Char} {x : Int} :
    readExponent? cs = some x ↔ ExponentOf cs x := by
  refine ⟨fun h => ?_, ?_⟩
  · rcases cs with _ | ⟨c, rest⟩
    · obtain rfl := Option.some.inj h
      exact .none
    · rw [readExponent?] at h
      split at h
      · next he => exact .some he (readWhole?_eq_some.1 h)
      · exact nomatch h
  · rintro (_ | ⟨he, whole⟩)
    · rfl
    · rw [readExponent?, if_pos he]
      exact readWhole?_eq_some.2 whole

/-- An exponent goes on with no digit and no point. -/
theorem ExponentOf.ends {cs : List Char} {x : Int} (h : ExponentOf cs x) :
    EndsDigits cs ∧ ∀ c rest, cs = c :: rest → c ≠ '.' := by
  rcases h with _ | ⟨he, _⟩
  · exact ⟨fun _ _ h => (nomatch h), fun _ _ h => (nomatch h)⟩
  · refine ⟨fun c rest hc => ?_, fun c rest hc => ?_⟩
    · obtain rfl := (List.cons.inj hc).1
      rcases he with rfl | rfl <;> decide
    · obtain rfl := (List.cons.inj hc).1
      rcases he with rfl | rfl <;> decide

/-- What is split off is a fraction, with the rest behind it. -/
theorem splitFraction_spec (cs : List Char) :
    ∃ point, cs = point ++ (splitFraction cs).2 ∧ FractionOf point (splitFraction cs).1 := by
  rw [splitFraction.eq_def]
  split
  · next rest =>
    refine ⟨'.' :: rest.takeWhile Char.isDigit, ?_, .some (digits_takeWhile rest)⟩
    exact congrArg ('.' :: ·) List.takeWhile_append_dropWhile.symm
  · exact ⟨[], rfl, .none⟩

/-- A fraction is split off from what goes on with no digit and no point. -/
theorem splitFraction_append {point fraction last : List Char} (hpoint : FractionOf point fraction)
    (hdigits : EndsDigits last) (hdot : ∀ c rest, last = c :: rest → c ≠ '.') :
    splitFraction (point ++ last) = (fraction, last) := by
  rcases hpoint with _ | hfraction
  · rw [List.nil_append, splitFraction.eq_def]
    split
    · exact absurd rfl (hdot _ _ rfl)
    · rfl
  · obtain ⟨htake, hdrop⟩ := takeWhile_digits hfraction hdigits
    exact Prod.ext htake hdrop

/-! ## Reading -/

/-- What follows the digits in front of the point goes on with no digit. -/
theorem endsDigits_fraction {point fraction last : List Char} (hpoint : FractionOf point fraction)
    (hlast : EndsDigits last) : EndsDigits (point ++ last) := by
  rcases hpoint with _ | _
  · exact hlast
  · intro c rest hc
    obtain rfl := (List.cons.inj hc).1
    decide

/-- A numeral without its sign begins with a digit or the point. -/
theorem ne_sign_of_fraction {whole point fraction last : List Char} (hwhole : Digits whole)
    (hpoint : FractionOf point fraction) (hsome : whole ++ fraction ≠ []) (c : Char)
    (others : List Char) (h : whole ++ (point ++ last) = c :: others) : c ≠ '-' ∧ c ≠ '+' := by
  rcases whole with _ | ⟨d, whole⟩
  · rcases hpoint with _ | _
    · exact absurd rfl hsome
    · obtain rfl := (List.cons.inj h).1
      decide
  · obtain rfl := (List.cons.inj h).1
    exact ne_sign_of_isDigit (hwhole _ (.head _))

/-- **Reading takes numerals and nothing else**, and reads the number that is spelled. -/
theorem read?_eq_some {cs : List Char} {d : Decimal} : read? cs = some d ↔ Spells cs d := by
  refine ⟨fun h => ?_, ?_⟩
  · obtain ⟨sign, hcs, hsign⟩ := splitSign_spec cs
    obtain ⟨point, hpoint, hfraction⟩ := splitFraction_spec ((splitSign cs).2.dropWhile Char.isDigit)
    rw [read?] at h
    simp only at h
    split at h
    · exact nomatch h
    · next hsome =>
      obtain ⟨exponent, hexponent, rfl⟩ := Option.map_eq_some_iff.1 h
      have hspells := Spells.mk hsign (digits_takeWhile (splitSign cs).2) hfraction hsome
        (readExponent?_eq_some.1 hexponent)
      rw [← hpoint, List.takeWhile_append_dropWhile, ← hcs] at hspells
      exact hspells
  · rintro ⟨hsign, hwhole, hpoint, hsome, hlast⟩
    rename_i sign negative whole point fraction last exponent
    obtain ⟨hends, hdot⟩ := hlast.ends
    have hsplit : splitSign (sign ++ (whole ++ (point ++ last))) =
        (negative, whole ++ (point ++ last)) :=
      splitSign_append hsign (ne_sign_of_fraction hwhole hpoint hsome)
    obtain ⟨htake, hdrop⟩ := takeWhile_digits hwhole (endsDigits_fraction hpoint hends)
    have hfraction := splitFraction_append hpoint hends hdot
    rw [read?, hsplit]
    simp only [htake, hdrop, hfraction]
    rw [if_neg hsome, readExponent?_eq_some.2 hlast]
    rfl

end Decimal

end Stencil
