import Stencil.Proofs.Number.Spelling

/-!
# Proofs/Number/ReadBack — the text of a number spells the number

Writing a decimal number positionally fills in zeros up to the point and leaves them out behind it; that
moves powers of ten between digits and exponent, and the double is the same (`Decimal.spells_text`).  The
decimal number written for a double was chosen because it reads back (`Double.Finite.toDouble_shortest`).
-/

namespace Stencil

namespace Decimal

/-! ## Zeros in front of digits and behind them -/

theorem ofDigits_toDigits (n : Nat) : ofDigits (Nat.toDigits 10 n) = n := Nat.ofDigitChars_ten_toDigits

/-- Zeros in front of digits count for nothing. -/
theorem ofDigits_zeros_append (k : Nat) (cs : List Char) :
    ofDigits (List.replicate k '0' ++ cs) = ofDigits cs := by
  rw [ofDigits, Nat.ofDigitChars_append, Nat.ofDigitChars_replicate_zero, Nat.mul_zero]
  rfl

/-- Each zero behind digits counts for a power of ten. -/
theorem ofDigits_append_zeros (cs : List Char) (k : Nat) :
    ofDigits (cs ++ List.replicate k '0') = ofDigits cs * tenTo k := by
  rw [ofDigits, Nat.ofDigitChars_append, Nat.ofDigitChars_replicate_zero, Nat.mul_comm]
  rfl

/-- What is dropped from the end are zeros. -/
theorem dropTrailingZeros_append (cs : List Char) :
    ∃ k, cs = dropTrailingZeros cs ++ List.replicate k '0' := by
  have hzeros : ∀ c ∈ cs.reverse.takeWhile (· = '0'), c = '0' := fun c hc =>
    of_decide_eq_true (List.mem_takeWhile_imp (p := (· = '0')) hc)
  refine ⟨(cs.reverse.takeWhile (· = '0')).length, ?_⟩
  have hsplit := congrArg List.reverse (List.takeWhile_append_dropWhile (p := (· = '0')) (l := cs.reverse))
  rw [List.reverse_append, List.reverse_reverse, List.eq_replicate_of_mem hzeros, List.reverse_replicate]
    at hsplit
  exact hsplit.symm

theorem digits_dropTrailingZeros {ds : List Char} (h : Digits ds) : Digits (dropTrailingZeros ds) :=
  fun c hc => h c (List.mem_reverse.1 ((List.dropWhile_sublist _).subset (List.mem_reverse.1 hc)))

/-! ## The positional text of a decimal number -/

/-- Digits, and a fraction if there is one, are a numeral behind a hyphen or none. -/
theorem spells_sign (negative : Bool) {whole point fraction : List Char} (hwhole : Digits whole)
    (hsome : whole ≠ []) (hpoint : FractionOf point fraction) :
    Spells ((if negative then ['-'] else []) ++ (whole ++ point))
      ⟨negative, ofDigits (whole ++ fraction), -(fraction.length : Int)⟩ := by
  have hsign : SignOf (if negative then ['-'] else []) negative := by
    rcases negative with _ | _
    · exact .none
    · exact .minus
  have hspells := Spells.mk hsign hwhole hpoint (fun h => hsome (List.append_eq_nil_iff.1 h).1) .none
  rw [List.append_nil, Int.zero_sub] at hspells
  exact hspells

theorem fractionOf_pointed {ds : List Char} (h : Digits ds) : FractionOf (pointed ds) ds := by
  rw [pointed]
  split
  · next hnil => exact hnil ▸ .none
  · exact .some h

/-- A text of digits, with a fraction behind them or none, that has the same double as the number. -/
def Shows (negative : Bool) (digits : Nat) (exponent : Int) (cs : List Char) : Prop :=
  ∃ whole point fraction, cs = whole ++ point ∧ Digits whole ∧ whole ≠ [] ∧ FractionOf point fraction ∧
    toDouble ⟨negative, ofDigits (whole ++ fraction), -(fraction.length : Int)⟩ =
      toDouble ⟨negative, digits, exponent⟩

/-- Zeros up to the point stand for a positive exponent. -/
theorem shows_whole (negative : Bool) {digits k : Nat} {ds : List Char} (hdigits : Digits ds)
    (hsome : ds ≠ []) (h : ofDigits ds = digits * tenTo k) : Shows negative digits k ds := by
  refine ⟨ds, [], [], (List.append_nil ds).symm, hdigits, hsome, .none, ?_⟩
  rw [List.append_nil, h, toDouble_shift, List.length_nil, Int.natCast_zero, Int.neg_zero, Int.zero_add]

/-- The last digits stand behind the point for a negative exponent; zeros at their end do not count. -/
theorem shows_fraction (negative : Bool) (places : Nat) {ds : List Char} (hdigits : Digits ds)
    (hlong : places < ds.length) :
    Shows negative (ofDigits ds) (-(places : Int)) (ds.take (ds.length - places)
      ++ pointed (dropTrailingZeros (ds.drop (ds.length - places)))) := by
  have hdrop : Digits (ds.drop (ds.length - places)) := fun c hc => hdigits c (List.mem_of_mem_drop hc)
  obtain ⟨k, hk⟩ := dropTrailingZeros_append (ds.drop (ds.length - places))
  have hlength := congrArg List.length hk
  rw [List.length_drop, List.length_append, List.length_replicate] at hlength
  have hsplit : ds = ds.take (ds.length - places)
      ++ dropTrailingZeros (ds.drop (ds.length - places)) ++ List.replicate k '0' := by
    rw [List.append_assoc, ← hk, List.take_append_drop]
  refine ⟨_, _, _, rfl, fun c hc => hdigits c (List.mem_of_mem_take hc), fun h => ?_,
    fractionOf_pointed (digits_dropTrailingZeros hdrop), ?_⟩
  · have hnone := congrArg List.length h
    rw [List.length_take, List.length_nil] at hnone
    omega
  · have hplaces : -(places : Int) + k =
        -((dropTrailingZeros (ds.drop (ds.length - places))).length : Int) := by omega
    rw [← hplaces, ← toDouble_shift, ← ofDigits_append_zeros, ← hsplit]

/-- **The digits of a decimal number show it**, whichever side of the point they stand on. -/
theorem shows_unsignedText (negative : Bool) (digits : Nat) (exponent : Int) :
    Shows negative digits exponent (unsignedText digits exponent) := by
  have hdigits := digits_toDigits digits
  have hsome : Nat.toDigits 10 digits ≠ [] := Nat.toDigits_ne_nil
  unfold unsignedText
  dsimp only
  split
  · next hexponent =>
    have hplaces := Int.toNat_of_nonneg hexponent
    rw [← hplaces]
    split
    · next hzero =>
      refine shows_whole negative hdigits hsome ?_
      rw [ofDigits_toDigits, hzero, Nat.zero_mul]
    · refine shows_whole negative (hdigits.append (digits_replicate_zero _))
        (fun h => hsome (List.append_eq_nil_iff.1 h).1) ?_
      rw [ofDigits_append_zeros, ofDigits_toDigits]
      rfl
  · next hexponent =>
    have hplaces : -((-exponent).toNat : Int) = exponent := by omega
    have hpadded := (digits_replicate_zero
      ((-exponent).toNat + 1 - (Nat.toDigits 10 digits).length)).append hdigits
    have hshows := shows_fraction negative (-exponent).toNat hpadded (by
      rw [List.length_append, List.length_replicate]
      omega)
    rwa [ofDigits_zeros_append, ofDigits_toDigits, hplaces] at hshows

/-- **The text of a decimal number is a numeral with the same double.** -/
theorem spells_text (d : Decimal) : ∃ e, Spells d.text e ∧ e.toDouble = d.toDouble := by
  obtain ⟨whole, point, fraction, htext, hwhole, hsome, hpoint, hdouble⟩ :=
    shows_unsignedText d.negative d.digits d.exponent
  refine ⟨_, ?_, hdouble⟩
  rw [text, htext]
  exact spells_sign d.negative hwhole hsome hpoint

end Decimal

/-! ## The text of a whole number -/

namespace Number

/-- The digits of a whole number are a numeral without a fraction. -/
theorem spells_wholeText (z : Int) : Decimal.Spells (wholeText z) ⟨decide (z < 0), z.natAbs, 0⟩ := by
  have hspells := Decimal.spells_sign (decide (z < 0)) (Decimal.digits_toDigits z.natAbs)
    Nat.toDigits_ne_nil .none
  simp only [List.append_nil, Decimal.ofDigits_toDigits, decide_eq_true_eq] at hspells
  exact hspells

/-- **The digits of a whole number spell the double nearest to it.** -/
theorem spelled?_wholeText (z : Int) :
    Double.spelled? (String.ofList (wholeText z)) = some (.ofInt z) := by
  rw [Double.spelled?_of_spells (spells_wholeText z), Decimal.toDouble_eq]
  dsimp only
  rw [Int.neg_zero, Int.toNat_zero, tenTo_zero, Nat.mul_one]
  rfl

end Number

/-! ## The text of a double -/

namespace Double.Finite

/-- The exact decimal value is rounded to the double itself. -/
theorem toDouble_exact (x : Finite) : x.exact.toDouble = .finite x := by
  have hten : Nat.pow 5 1074 * unitsPerOne = tenTo 1074 := by decide +kernel
  have hplaces : (-(-1074 : Int)).toNat = 1074 := by decide
  have hzeros : (-1074 : Int).toNat = 0 := by decide
  have hpos : 0 < Nat.pow 5 1074 * unitsPerOne := hten ▸ tenTo_pos 1074
  rw [exact, Decimal.toDouble_eq, ← ofQuotient_magnitude x, hplaces, hzeros, ← hten, tenTo_zero]
  generalize Nat.pow 5 1074 = fives at hpos
  refine ofQuotient_congr x.negative hpos Nat.zero_lt_one ?_
  rw [Nat.mul_one, Nat.mul_one, Nat.mul_assoc]

/-- A candidate has been read back. -/
theorem toDouble_withDigits? {x : Finite} {count : Nat} {d : Decimal} (h : x.withDigits? count = some d) :
    d.toDouble = .finite x := by
  unfold withDigits? at h
  dsimp only at h
  have hd := List.find?_some h
  exact of_decide_eq_true hd

/-- **The shortest decimal number reads back as the double.** -/
theorem toDouble_shortest (x : Finite) : x.shortest.toDouble = .finite x := by
  rw [shortest]
  split
  · next hzero =>
    have hmagnitude : (zero x.negative).magnitude = x.magnitude := by
      rw [magnitude, magnitude, hzero, zero, Nat.zero_mul, Nat.zero_mul]
    have hx : zero x.negative = x := ext_magnitude rfl hmagnitude
    rw [Decimal.toDouble, if_pos (.inl rfl), hx]
  · rcases hfound : (List.range' 1 17).findSome? x.withDigits? with _ | d
    · rw [Option.getD_none, toDouble_exact]
    · rw [Option.getD_some]
      obtain ⟨count, -, hcount⟩ := List.exists_of_findSome?_eq_some hfound
      exact toDouble_withDigits? hcount

/-- **The text of a double spells the double.** -/
theorem spelled?_text (x : Finite) : spelled? x.text = some (finite x) := by
  obtain ⟨d, hspells, hdouble⟩ := x.shortest.spells_text
  rw [text, spelled?_of_spells hspells, hdouble, toDouble_shortest]

end Double.Finite

theorem Number.toDouble_ne_nan (n : Number) : n.toDouble ≠ .nan := by
  rcases n with z | x
  · exact Double.ofInt_ne_nan z
  · exact fun h => Double.noConfusion h

/-- The text of a number spells a number. -/
theorem Number.isSome_spelled?_text (n : Number) : (Double.spelled? n.text).isSome = true := by
  rcases n with z | x
  · exact Option.isSome_of_eq_some (spelled?_wholeText z)
  · rw [text]
    rcases shownWhole? x with _ | z
    · exact Option.isSome_of_eq_some x.spelled?_text
    · exact Option.isSome_of_eq_some (spelled?_wholeText z)

end Stencil
