import Mathlib.Data.String.Basic

/-! The order of texts is the order of their UTF-8 bytes. Both compare the first characters that
differ: of two encodings the longer one starts with the greater byte, and encodings of one length
compare like the code points, whose digits to the base 64 they list. -/

namespace Worksheet.Text

def bytes (s : String) : List UInt8 := s.toUTF8.data.toList

theorem bytes_eq (s : String) : bytes s = s.toList.flatMap String.utf8EncodeChar := by
  rw [bytes, String.toUTF8, ← String.utf8Encode_toList, List.utf8Encode]
  exact List.toList_data_toByteArray

theorem utf8EncodeChar_append_lt {c d : Char} (h : c < d) (xs ys : List UInt8) :
    String.utf8EncodeChar c ++ xs < String.utf8EncodeChar d ++ ys := by
  have less : c.val.toNat < d.val.toNat := h
  have small : d.val.toNat < 1114112 := by
    have valid := d.valid
    simp only [UInt32.isValidChar, Nat.isValidChar] at valid
    omega
  have third (n : Nat) : n / 4096 = n / 64 / 64 := by rw [Nat.div_div_eq_div_mul]
  have fourth (n : Nat) : n / 262144 = n / 64 / 64 / 64 := by simp only [Nat.div_div_eq_div_mul]
  simp only [String.utf8EncodeChar, third, fourth]
  -- a case for every two lengths; `c` is not encoded in more bytes than `d`
  split_ifs <;> first
    | omega
    | (simp only [List.cons_append, List.nil_append, List.cons_lt_cons_iff, UInt8.lt_iff_toNat_lt,
        ← UInt8.toNat_inj, UInt8.toNat_ofNat']
       omega)

theorem flatMap_utf8EncodeChar_lt {as bs : List Char} (h : as < bs) :
    as.flatMap String.utf8EncodeChar < bs.flatMap String.utf8EncodeChar := by
  induction as generalizing bs with
  | nil =>
    cases bs with
    | nil => exact absurd h (List.lt_irrefl _)
    | cons b bs =>
      obtain ⟨x, xs, first⟩ := List.exists_cons_of_ne_nil (String.utf8EncodeChar_ne_nil (c := b))
      rw [List.flatMap_cons, first]
      exact List.nil_lt_cons _ _
  | cons a as ih =>
    cases bs with
    | nil => exact absurd h (List.not_lt_nil _)
    | cons b bs =>
      rw [List.flatMap_cons, List.flatMap_cons]
      rcases List.cons_lt_cons_iff.1 h with less | ⟨rfl, rest⟩
      · exact utf8EncodeChar_append_lt less _ _
      · exact List.append_left_lt (ih rest)

theorem bytes_lt {a b : String} (h : a < b) : bytes a < bytes b := by
  rw [bytes_eq, bytes_eq]
  exact flatMap_utf8EncodeChar_lt (String.lt_iff_toList_lt.1 h)

end Worksheet.Text
