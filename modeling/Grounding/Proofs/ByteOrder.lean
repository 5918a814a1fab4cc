import Grounding.LabelSet

/-! The order of texts is the order of their UTF-8 bytes. The first byte of a character tells how
many bytes follow, and more of them stand for a greater code point; the bytes that follow hold six
binary digits each, the leading ones first. -/

namespace Grounding

/-- The bytes of a text in UTF-8. -/
def utf8Bytes (s : String) : List UInt8 :=
  s.toByteArray.data.toList

/-- One text comes before another when its bytes come first in lexicographic order. -/
def BytesBefore (s t : String) : Prop :=
  List.Lex (· < ·) (utf8Bytes s) (utf8Bytes t)

theorem utf8Bytes_eq_flatMap (s : String) :
    utf8Bytes s = s.toList.flatMap String.utf8EncodeChar := by
  unfold utf8Bytes
  rw [← String.utf8Encode_toList]
  simp [List.utf8Encode]

section

variable {v w : Nat} (x y : List UInt8)

theorem lex_byte {a b : Nat} {x y : List UInt8} (hb : b < 256)
    (h : a < b ∨ a = b ∧ List.Lex (· < ·) x y) :
    List.Lex (· < ·) (UInt8.ofNat a :: x) (UInt8.ofNat b :: y) := by
  rcases h with h | ⟨rfl, h⟩
  · refine List.Lex.rel ?_
    rw [UInt8.lt_iff_toNat_lt, UInt8.toNat_ofNat', UInt8.toNat_ofNat']
    omega
  · exact List.Lex.cons h

theorem lex_sixDigits (h : v % 64 < w % 64) :
    List.Lex (· < ·) (UInt8.ofNat (v % 64 + 128) :: x) (UInt8.ofNat (w % 64 + 128) :: y) :=
  lex_byte (by omega) (Or.inl (by omega))

theorem lex_twelveDigits (h : v % 4096 < w % 4096) :
    List.Lex (· < ·) (UInt8.ofNat (v / 64 % 64 + 128) :: UInt8.ofNat (v % 64 + 128) :: x)
      (UInt8.ofNat (w / 64 % 64 + 128) :: UInt8.ofNat (w % 64 + 128) :: y) := by
  by_cases hlt : v / 64 % 64 < w / 64 % 64
  · exact lex_byte (by omega) (Or.inl (by omega))
  · exact lex_byte (by omega) (Or.inr ⟨by omega, lex_sixDigits x y (by omega)⟩)

theorem lex_eighteenDigits (h : v % 262144 < w % 262144) :
    List.Lex (· < ·)
      (UInt8.ofNat (v / 4096 % 64 + 128) :: UInt8.ofNat (v / 64 % 64 + 128) ::
        UInt8.ofNat (v % 64 + 128) :: x)
      (UInt8.ofNat (w / 4096 % 64 + 128) :: UInt8.ofNat (w / 64 % 64 + 128) ::
        UInt8.ofNat (w % 64 + 128) :: y) := by
  by_cases hlt : v / 4096 % 64 < w / 4096 % 64
  · exact lex_byte (by omega) (Or.inl (by omega))
  · exact lex_byte (by omega) (Or.inr ⟨by omega, lex_twelveDigits x y (by omega)⟩)

/-- Characters with fewer bytes have a smaller first byte. -/
theorem exists_firstByte (c : Char) :
    ∃ a rest, String.utf8EncodeChar c = UInt8.ofNat a :: rest ∧ (c.val.toNat ≤ 0x7f → a < 0xc0) ∧
      (c.val.toNat ≤ 0x7ff → a < 0xe0) ∧ (c.val.toNat ≤ 0xffff → a < 0xf0) := by
  fun_cases String.utf8EncodeChar c
  · exact ⟨_, _, rfl, by omega, by omega, by omega⟩
  · exact ⟨_, _, rfl, by omega, by omega, by omega⟩
  · exact ⟨_, _, rfl, by omega, by omega, by omega⟩
  · exact ⟨_, _, rfl, by omega, by omega, by omega⟩

theorem toNat_lt (c : Char) : c.val.toNat < 0x110000 := by
  have h := c.valid
  simp only [UInt32.isValidChar, Nat.isValidChar] at h
  omega

theorem lex_utf8EncodeChar {c d : Char} (h : c < d) :
    List.Lex (· < ·) (String.utf8EncodeChar c ++ x) (String.utf8EncodeChar d ++ y) := by
  have hlt : c.val.toNat < d.val.toNat := h
  have hd := toNat_lt d
  obtain ⟨a, rest, hfirst, hone, htwo, hthree⟩ := exists_firstByte c
  fun_cases String.utf8EncodeChar d
  case case1 w hw =>
    rw [String.utf8EncodeChar, if_pos (by omega)]
    exact lex_byte (by omega) (Or.inl hlt)
  case case2 w hw hw' =>
    by_cases hv : c.val.toNat ≤ 0x7f
    · rw [hfirst]
      have := hone hv
      exact lex_byte (by omega) (Or.inl (by omega))
    · rw [String.utf8EncodeChar, if_neg hv, if_pos (by omega)]
      by_cases hlead : c.val.toNat / 64 < w / 64
      · exact lex_byte (by omega) (Or.inl (by omega))
      · exact lex_byte (by omega) (Or.inr ⟨by omega, lex_sixDigits x y (by omega)⟩)
  case case3 w hw hw' hw'' =>
    by_cases hv : c.val.toNat ≤ 0x7ff
    · rw [hfirst]
      have := htwo hv
      exact lex_byte (by omega) (Or.inl (by omega))
    · rw [String.utf8EncodeChar, if_neg (by omega), if_neg hv, if_pos (by omega)]
      by_cases hlead : c.val.toNat / 4096 < w / 4096
      · exact lex_byte (by omega) (Or.inl (by omega))
      · exact lex_byte (by omega) (Or.inr ⟨by omega, lex_twelveDigits x y (by omega)⟩)
  case case4 w hw hw' hw'' =>
    by_cases hv : c.val.toNat ≤ 0xffff
    · rw [hfirst]
      have := hthree hv
      exact lex_byte (by omega) (Or.inl (by omega))
    · rw [String.utf8EncodeChar, if_neg (by omega), if_neg (by omega), if_neg hv]
      by_cases hlead : c.val.toNat / 262144 < w / 262144
      · exact lex_byte (by omega) (Or.inl (by omega))
      · exact lex_byte (by omega) (Or.inr ⟨by omega, lex_eighteenDigits x y (by omega)⟩)

end

theorem lex_append_left (bytes : List UInt8) {x y : List UInt8} (h : List.Lex (· < ·) x y) :
    List.Lex (· < ·) (bytes ++ x) (bytes ++ y) := by
  induction bytes with
  | nil => exact h
  | cons b rest ih => exact List.Lex.cons ih

theorem lex_flatMap_utf8EncodeChar {cs ds : List Char} (h : List.Lex (· < ·) cs ds) :
    List.Lex (· < ·) (cs.flatMap String.utf8EncodeChar) (ds.flatMap String.utf8EncodeChar) := by
  induction h with
  | nil =>
    rename_i d ds
    obtain ⟨b, rest, hb⟩ := List.exists_cons_of_ne_nil (String.utf8EncodeChar_ne_nil (c := d))
    rw [List.flatMap_cons, hb]
    exact List.Lex.nil
  | cons _ ih => exact lex_append_left _ ih
  | rel hlt => exact lex_utf8EncodeChar _ _ hlt

theorem bytesBefore_of_lt {s t : String} (h : s < t) : BytesBefore s t := by
  unfold BytesBefore
  rw [utf8Bytes_eq_flatMap, utf8Bytes_eq_flatMap]
  exact lex_flatMap_utf8EncodeChar h

theorem LabelSet.bytes_ascending (s : LabelSet) : s.labels.Pairwise BytesBefore :=
  s.ascending.imp bytesBefore_of_lt

end Grounding
