import Stencil.Proofs.Html.Grammar
import Stencil.Proofs.Html.Reference

/-!
# Proofs/Html/Decoding — what spells a text is decoded to it

    c ◂──SpelledChar── characters ──decodeFrom 0──▸ c

A reference is decoded on its own, whatever comes behind its semicolon, and so is any other character.  Only
the characters that references are made of stand in what is written for a text, beside those of the text.
-/

namespace Stencil.Html

/-! ## References by number -/

/-- A character that can be referred to is the one of its number. -/
theorem numbered_toNat {c : Char} (h : Referable c) : numbered c.toNat = c := by
  have hzero : c.toNat ≠ 0 := by rcases h with h | h <;> omega
  have hlegacy : ¬(128 ≤ c.toNat ∧ c.toNat < 160) := by rcases h with h | h <;> omega
  have hvalid : c.toNat.isValidChar := c.valid
  rw [numbered, if_neg hzero, if_neg hlegacy, if_pos hvalid, Char.ofNat_toNat]

/-- Digits up to a semicolon are read as the character of their number. -/
theorem numeric?_eq {lead : Nat} {isDigit : Char → Bool} {number? : List Char → Option Nat}
    {digits : List Char} {c : Char} (hnonempty : digits ≠ []) (hdigits : ∀ d ∈ digits, isDigit d = true)
    (hend : isDigit ';' = false) (hnumber : number? digits = some c.toNat) (hkept : Referable c)
    (rest : List Char) :
    numeric? lead isDigit number? (digits ++ ';' :: rest) = some (c, lead + digits.length + 1) := by
  have htake : (digits ++ ';' :: rest).takeWhile isDigit = digits := by
    rw [List.takeWhile_append_of_pos hdigits, List.takeWhile_cons_of_neg (by simp [hend]),
      List.append_nil]
  have hsize : ∀ size, sizeWith size (';' :: rest) = size + 1 := fun _ => if_pos rfl
  rw [numeric?, htake, if_neg hnonempty, hnumber, List.drop_left, Option.map_some,
    numbered_toNat hkept, hsize]

/-- A number in base ten, with a semicolon behind it, is read as its character. -/
theorem reference?_decimal (setting : Setting) {digits : List Char} {c : Char} (hnonempty : digits ≠ [])
    (hdigits : ∀ d ∈ digits, d.isDigit = true) (hnumber : Nat.ofDigitChars 10 digits 0 = c.toNat)
    (hkept : Referable c) (rest : List Char) :
    reference? setting ('#' :: (digits ++ ';' :: rest)) = some (c, 1 + digits.length + 1) := by
  have hnumeric : numeric? 1 Char.isDigit (fun ds => some (Nat.ofDigitChars 10 ds 0))
      (digits ++ ';' :: rest) = some (c, 1 + digits.length + 1) :=
    numeric?_eq hnonempty hdigits rfl (congrArg some hnumber) hkept rest
  -- a digit is no sign of another base
  rcases digits with _ | ⟨d, ds⟩
  · exact absurd rfl hnonempty
  · have hx : d ≠ 'x' ∧ d ≠ 'X' := by
      constructor <;> rintro rfl <;> exact absurd (hdigits _ (.head _)) (by decide)
    rw [List.cons_append, reference?.eq_3 _ _ (fun _ h => hx.1 (List.cons.inj h).1)
      (fun _ h => hx.2 (List.cons.inj h).1)]
    exact hnumeric

theorem isSome_digit?_of_number? {n m : Nat} {digits : List Char}
    (h : Hexadecimal.number? n digits = some m) : ∀ d ∈ digits, (Hexadecimal.digit? d).isSome = true := by
  induction digits generalizing n with
  | nil => exact fun _ hd => absurd hd List.not_mem_nil
  | cons d ds ih =>
    obtain ⟨value, hvalue, h⟩ := Option.bind_eq_some_iff.1 h
    exact List.forall_mem_cons.2 ⟨by rw [hvalue, Option.isSome_some], ih h⟩

/-- A number in base sixteen, with a semicolon behind it, is read as its character. -/
theorem reference?_hexadecimal (setting : Setting) {digits : List Char} {c : Char}
    (hnonempty : digits ≠ []) (hnumber : Hexadecimal.number? 0 digits = some c.toNat)
    (hkept : Referable c) (rest : List Char) :
    reference? setting ('#' :: 'x' :: (digits ++ ';' :: rest)) = some (c, 2 + digits.length + 1) :=
  numeric?_eq hnonempty (isSome_digit?_of_number? hnumber) rfl hnumber hkept rest

/-! ## Texts -/

variable {ending : Char}

/-- A reference is decoded to its character, whatever comes behind it. -/
theorem decodeFrom_reference {setting : Setting} (reference : List Char) {c : Char} {rest : List Char}
    (h : reference? setting (reference ++ rest) = some (c, reference.length)) :
    decodeFrom setting 0 ('&' :: reference ++ rest) = c :: decodeFrom setting 0 rest := by
  rw [List.cons_append, decodeFrom, if_pos rfl, h]
  exact congrArg (c :: ·) (decodeFrom_length setting reference rest)

/-- **What is written for a character is decoded to it.** -/
theorem SpelledChar.decodeFrom_eq {cs : List Char} {c : Char} (h : SpelledChar ending cs c)
    (setting : Setting) (rest : List Char) :
    decodeFrom setting 0 (cs ++ rest) = c :: decodeFrom setting 0 rest := by
  cases h with
  | self h => rw [List.singleton_append, decodeFrom, if_neg h.ne_ampersand]
  | named hname =>
    refine decodeFrom_reference _ ?_
    rw [List.append_assoc, List.singleton_append, reference?_name setting hname, List.length_append,
      List.length_singleton]
  | @decimal digits _ nonempty isDigit number kept =>
    refine decodeFrom_reference ('#' :: (digits ++ [';'])) ?_
    have href := reference?_decimal setting nonempty isDigit number kept rest
    simpa [Nat.add_comm, Nat.add_left_comm] using href
  | @hexadecimal digits _ nonempty number kept =>
    refine decodeFrom_reference ('#' :: 'x' :: (digits ++ [';'])) ?_
    have href := reference?_hexadecimal setting nonempty number kept rest
    simpa [Nat.add_comm, Nat.add_left_comm] using href

/-- **What is written for a text is decoded to it.** -/
theorem SpelledText.decode_eq {cs content : List Char} (h : SpelledText ending cs content)
    (setting : Setting) : decode setting cs = content := by
  rw [decode]
  induction h with
  | nil => rfl
  | cons first behind ih => rw [first.decodeFrom_eq, ih]

/-! ## Characters that are not written -/

/-- Whether a character is one that references are made of. -/
def isReferenceChar (c : Char) : Bool := c.isAlphanum || c = '&' || c = '#' || c = ';'

theorem isReferenceChar_of_isAlphanum {c : Char} (h : c.isAlphanum = true) :
    isReferenceChar c = true := by
  rw [isReferenceChar, h, Bool.true_or, Bool.true_or, Bool.true_or]

theorem isReferenceChar_of_isDigit {c : Char} (h : c.isDigit = true) : isReferenceChar c = true :=
  isReferenceChar_of_isAlphanum (Bool.or_eq_true_iff.2 (.inr h))

theorem isReferenceChar_of_isSome_digit? {c : Char} (h : (Hexadecimal.digit? c).isSome = true) :
    isReferenceChar c = true := by
  unfold Hexadecimal.digit? at h
  split at h
  · next hdigit => exact isReferenceChar_of_isDigit hdigit
  · split at h
    · next hsmall =>
      have hlower : c.isLower = true := Bool.and_eq_true_iff.2
        ⟨decide_eq_true hsmall.1, decide_eq_true (UInt32.le_trans hsmall.2 (by decide))⟩
      exact isReferenceChar_of_isAlphanum
        (Bool.or_eq_true_iff.2 (.inl (Bool.or_eq_true_iff.2 (.inr hlower))))
    · split at h
      · next hlarge =>
        have hupper : c.isUpper = true :=
          decide_eq_true ⟨hlarge.1, UInt32.le_trans hlarge.2 (by decide)⟩
        exact isReferenceChar_of_isAlphanum
          (Bool.or_eq_true_iff.2 (.inl (Bool.or_eq_true_iff.2 (.inl hupper))))
      · cases h

/-- What is written for a character is inert, or part of a reference. -/
theorem SpelledChar.mem {cs : List Char} {c d : Char} (h : SpelledChar ending cs c) (hd : d ∈ cs) :
    Inert ending d ∨ isReferenceChar d = true := by
  cases h with
  | self h => exact .inl (List.mem_singleton.1 hd ▸ h)
  | named hname =>
    have hchars : referenceChars.all isReferenceChar = true := by rfl
    exact .inr (List.all_eq_true.1 hchars d (reference_subset hname hd))
  | decimal nonempty isDigit number kept =>
    simp only [List.mem_cons, List.mem_append, List.not_mem_nil, or_false] at hd
    obtain rfl | rfl | hdigit | rfl := hd
    · exact .inr rfl
    · exact .inr rfl
    · exact .inr (isReferenceChar_of_isDigit (isDigit d hdigit))
    · exact .inr rfl
  | hexadecimal nonempty number kept =>
    simp only [List.mem_cons, List.mem_append, List.not_mem_nil, or_false] at hd
    obtain rfl | rfl | rfl | hdigit | rfl := hd
    · exact .inr rfl
    · exact .inr rfl
    · exact .inr rfl
    · exact .inr (isReferenceChar_of_isSome_digit? (isSome_digit?_of_number? number d hdigit))
    · exact .inr rfl

/-- **What is written for a text is inert**, if what ends the text is in no reference: there is nothing in
it that ends it, no carriage return and no null character. -/
theorem SpelledText.mem {cs content : List Char} (h : SpelledText ending cs content)
    (hending : isReferenceChar ending = false) {d : Char} (hd : d ∈ cs) :
    d ≠ ending ∧ d ≠ '\r' ∧ d ≠ '\x00' := by
  induction h with
  | nil => exact absurd hd List.not_mem_nil
  | cons first behind ih =>
    rcases List.mem_append.1 hd with hd | hd
    · rcases first.mem hd with hinert | hreference
      · exact ⟨hinert.ne_ending, hinert.ne_return, hinert.ne_null⟩
      · refine ⟨?_, ?_, ?_⟩ <;> rintro rfl
        · exact absurd (hending.symm.trans hreference) (by decide)
        · exact absurd hreference (by decide)
        · exact absurd hreference (by decide)
    · exact ih hd

end Stencil.Html
