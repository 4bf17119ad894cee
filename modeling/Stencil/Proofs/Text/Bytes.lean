import Mathlib.Tactic.SplitIfs

/-!
# Proofs/Text/Bytes — characters in order are bytes in order

A character is written as one byte up to `0x7f`, as two up to `0x7ff`, as three up to `0xffff` and as four
beyond.  The first byte tells how many there are, and more bytes begin with a greater one; as many bytes are
the digits of the code point, the highest first.  So where two characters differ, their bytes differ in the
same direction before the shorter of the two ends (`utf8EncodeChar_append_lt`), and texts are in the order
of their bytes (`bytes_lt_bytes`).
-/

namespace Stencil.Text

/-- The bytes of a text in UTF-8. -/
def bytes (s : String) : List UInt8 := s.toUTF8.data.toList

theorem bytes_eq_flatMap (s : String) : bytes s = s.toList.flatMap String.utf8EncodeChar := by
  rw [bytes, String.toUTF8, ← String.utf8Encode_toList, List.utf8Encode, List.data_toByteArray]

section Digits

variable {m n : Nat} {l l' : List UInt8}

/-- Lists that begin with the bytes of small numbers compare like these, and like their rests if the
numbers are the same. -/
theorem ofNat_cons_lt (hm : m < 256) (hn : n < 256) (h : m < n ∨ m = n ∧ l < l') :
    UInt8.ofNat m :: l < UInt8.ofNat n :: l' := by
  rw [List.cons_lt_cons_iff]
  refine h.imp (fun hlt => ?_) fun ⟨heq, hrest⟩ => ⟨congrArg _ heq, hrest⟩
  rwa [UInt8.lt_iff_toNat_lt, UInt8.toNat_ofNat', UInt8.toNat_ofNat', Nat.mod_eq_of_lt hm,
    Nat.mod_eq_of_lt hn]

/-- Numbers that differ in their last digit of six bits only compare like it. -/
theorem lastDigit_lt (h : m < n) (hfront : m / 64 = n / 64) :
    UInt8.ofNat (m % 64 + 128) :: l < UInt8.ofNat (n % 64 + 128) :: l' :=
  ofNat_cons_lt (by omega) (by omega) (.inl (by omega))

/-- Numbers that differ in their last two digits only compare like these. -/
theorem lastTwoDigits_lt (h : m < n) (hfront : m / 4096 = n / 4096) :
    UInt8.ofNat (m / 64 % 64 + 128) :: UInt8.ofNat (m % 64 + 128) :: l <
      UInt8.ofNat (n / 64 % 64 + 128) :: UInt8.ofNat (n % 64 + 128) :: l' := by
  refine ofNat_cons_lt (by omega) (by omega) ?_
  rcases Nat.lt_or_eq_of_le (Nat.div_le_div_right (c := 64) (Nat.le_of_lt h)) with hlt | heq
  · exact .inl (by omega)
  · exact .inr ⟨by omega, lastDigit_lt h heq⟩

/-- Numbers that differ in their last three digits only compare like these. -/
theorem lastThreeDigits_lt (h : m < n) (hfront : m / 262144 = n / 262144) :
    UInt8.ofNat (m / 4096 % 64 + 128) :: UInt8.ofNat (m / 64 % 64 + 128) ::
        UInt8.ofNat (m % 64 + 128) :: l <
      UInt8.ofNat (n / 4096 % 64 + 128) :: UInt8.ofNat (n / 64 % 64 + 128) ::
        UInt8.ofNat (n % 64 + 128) :: l' := by
  refine ofNat_cons_lt (by omega) (by omega) ?_
  rcases Nat.lt_or_eq_of_le (Nat.div_le_div_right (c := 4096) (Nat.le_of_lt h)) with hlt | heq
  · exact .inl (by omega)
  · exact .inr ⟨by omega, lastTwoDigits_lt h heq⟩

end Digits

/-- **A smaller character has smaller bytes**, whatever comes behind the two. -/
theorem utf8EncodeChar_append_lt {c d : Char} (h : c < d) (l l' : List UInt8) :
    String.utf8EncodeChar c ++ l < String.utf8EncodeChar d ++ l' := by
  have hlt : c.val.toNat < d.val.toNat := UInt32.lt_iff_toNat_lt.1 h
  have hmax : d.val.toNat < 1114112 := by
    have hvalid : d.val.toNat < 55296 ∨ 57343 < d.val.toNat ∧ d.val.toNat < 1114112 := d.valid
    omega
  unfold String.utf8EncodeChar
  dsimp only
  generalize c.val.toNat = m at hlt
  generalize d.val.toNat = n at hlt hmax
  split_ifs
  -- the smaller character does not have more bytes; if it has fewer, or both have one, the first differ
  all_goals first
    | omega
    | exact ofNat_cons_lt (by omega) (by omega) (.inl (by omega))
    | refine ofNat_cons_lt (by omega) (by omega) ?_
  · rcases Nat.lt_or_eq_of_le (Nat.div_le_div_right (c := 64) (Nat.le_of_lt hlt)) with hfirst | hfirst
    · exact .inl (by omega)
    · exact .inr ⟨by omega, lastDigit_lt hlt hfirst⟩
  · rcases Nat.lt_or_eq_of_le (Nat.div_le_div_right (c := 4096) (Nat.le_of_lt hlt)) with hfirst | hfirst
    · exact .inl (by omega)
    · exact .inr ⟨by omega, lastTwoDigits_lt hlt hfirst⟩
  · rcases Nat.lt_or_eq_of_le (Nat.div_le_div_right (c := 262144) (Nat.le_of_lt hlt)) with hfirst | hfirst
    · exact .inl (by omega)
    · exact .inr ⟨by omega, lastThreeDigits_lt hlt hfirst⟩

/-- Lists of characters in order have their bytes in order. -/
theorem flatMap_utf8EncodeChar_lt {cs ds : List Char} (h : cs < ds) :
    cs.flatMap String.utf8EncodeChar < ds.flatMap String.utf8EncodeChar := by
  -- along the order of the lists: the first one ends, or it has the smaller character, or not yet
  induction h with
  | @nil d ds =>
    obtain ⟨byte, rest, hbytes⟩ := List.exists_cons_of_ne_nil (String.utf8EncodeChar_ne_nil (c := d))
    rw [List.flatMap_cons, hbytes]
    exact List.nil_lt_cons _ _
  | rel hchar =>
    rw [List.flatMap_cons, List.flatMap_cons]
    exact utf8EncodeChar_append_lt hchar _ _
  | cons hrest ih =>
    rw [List.flatMap_cons, List.flatMap_cons]
    exact List.append_left_lt ih

/-- **Texts in order have their bytes in order.** -/
theorem bytes_lt_bytes {a b : String} (h : a < b) : bytes a < bytes b := by
  rw [bytes_eq_flatMap, bytes_eq_flatMap]
  exact flatMap_utf8EncodeChar_lt h

end Stencil.Text
