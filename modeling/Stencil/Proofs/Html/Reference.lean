import Stencil.Html.Escape

/-!
# Proofs/Html/Reference — what is written is what is read

    c ──encodeChar──▸ c, or a reference ──decodeFrom 0──▸ c

Each character is decoded on its own: the reference of a character that needs one ends with a semicolon,
so it is resolved whatever comes behind it, and any other character is no ampersand
(`decodeFrom_encodeChar`).  So a text that looks like a reference is read as it was (`decode_encode`).
-/

namespace Stencil.Html

variable (setting : Setting)

/-! ## Writing -/

/-- **A character is written as itself or as the reference of its name**, an ampersand always as one. -/
theorem encodeChar_cases (c : Char) :
    encodeChar setting c = [c] ∧ c ≠ '&' ∨
      ∃ name, (name, c) ∈ namedChars ∧ encodeChar setting c = '&' :: (name ++ [';']) := by
  unfold encodeChar
  split
  · next h => exact .inr ⟨"amp".toList, by rw [h]; decide, rfl⟩
  · next hamp =>
    split
    · next h => exact .inr ⟨"nbsp".toList, by rw [h]; decide, rfl⟩
    · cases setting with
      | text =>
        dsimp only
        split
        · next h => exact .inr ⟨"lt".toList, by rw [h]; decide, rfl⟩
        · split
          · next h => exact .inr ⟨"gt".toList, by rw [h]; decide, rfl⟩
          · exact .inl ⟨rfl, hamp⟩
      | value =>
        dsimp only
        split
        · next h => exact .inr ⟨"quot".toList, by rw [h]; decide, rfl⟩
        · exact .inl ⟨rfl, hamp⟩

/-! ## Reading -/

/-- The name of a character, with a semicolon behind it, is read as the character. -/
theorem reference?_name {name : List Char} {c : Char} (h : (name, c) ∈ namedChars) (rest : List Char) :
    reference? setting (name ++ ';' :: rest) = some (c, name.length + 1) := by
  simp only [namedChars, List.mem_cons, Prod.mk.injEq, List.not_mem_nil, or_false] at h
  rcases h with ⟨rfl, rfl⟩ | ⟨rfl, rfl⟩ | ⟨rfl, rfl⟩ | ⟨rfl, rfl⟩ | ⟨rfl, rfl⟩ <;> cases setting <;> rfl

/-- What belongs to a reference is passed over. -/
theorem decodeFrom_length (cs rest : List Char) :
    decodeFrom setting cs.length (cs ++ rest) = decodeFrom setting 0 rest := by
  induction cs with
  | nil => rfl
  | cons c cs ih => rw [List.length_cons, List.cons_append, decodeFrom, ih]

/-- **A written character is read back**, whatever comes behind it. -/
theorem decodeFrom_encodeChar (c : Char) (rest : List Char) :
    decodeFrom setting 0 (encodeChar setting c ++ rest) = c :: decodeFrom setting 0 rest := by
  obtain ⟨hself, hamp⟩ | ⟨name, hname, href⟩ := encodeChar_cases setting c
  · rw [hself, List.singleton_append, decodeFrom, if_neg hamp]
  · have hsplit : name ++ [';'] ++ rest = name ++ ';' :: rest := List.append_assoc ..
    have hskip := decodeFrom_length setting (name ++ [';']) rest
    rw [List.length_append, List.length_singleton, hsplit] at hskip
    rw [href, List.cons_append, hsplit, decodeFrom, if_pos rfl, reference?_name setting hname]
    exact congrArg (c :: ·) hskip

/-- **A written text is read back.** -/
theorem decode_encode (cs : List Char) : decode setting (encode setting cs) = cs := by
  unfold decode encode
  induction cs with
  | nil => rfl
  | cons c rest ih => rw [List.flatMap_cons, decodeFrom_encodeChar, ih]

/-! ## Characters that are not written -/

/-- The characters that references are made of. -/
def referenceChars : List Char := "&ampltgquonbs;".toList

omit setting in
/-- References are made of them. -/
theorem reference_subset {name : List Char} {c : Char} (h : (name, c) ∈ namedChars) :
    '&' :: (name ++ [';']) ⊆ referenceChars := by
  have hnames : ∀ entry ∈ namedChars, '&' :: (entry.1 ++ [';']) ⊆ referenceChars := by decide
  exact hnames _ h

/-- What is written for a character is the character or a reference. -/
theorem mem_encodeChar {c d : Char} (h : d ∈ encodeChar setting c) : d = c ∨ d ∈ referenceChars := by
  obtain ⟨hself, -⟩ | ⟨name, hname, href⟩ := encodeChar_cases setting c
  · rw [hself] at h
    exact .inl (List.mem_singleton.1 h)
  · rw [href] at h
    exact .inr (reference_subset hname h)

/-- A character is written only if it is part of a reference, or stands in the text and is written as
itself. -/
theorem mem_encode {c : Char} {cs : List Char} (h : c ∈ encode setting cs) :
    c ∈ referenceChars ∨ c ∈ cs ∧ c ∈ encodeChar setting c := by
  obtain ⟨d, hd, hc⟩ := List.mem_flatMap.1 h
  obtain rfl | hpart := mem_encodeChar setting hc
  · exact .inr ⟨hd, hc⟩
  · exact .inl hpart

/-- A written text begins no markup. -/
theorem angle_not_mem_encode (cs : List Char) : '<' ∉ encode .text cs := fun h =>
  (mem_encode .text h).elim (by decide) fun hself => absurd hself.2 (by decide)

/-- A written value does not end its quotes. -/
theorem quote_not_mem_encode (cs : List Char) : '"' ∉ encode .value cs := fun h =>
  (mem_encode .value h).elim (by decide) fun hself => absurd hself.2 (by decide)

end Stencil.Html
