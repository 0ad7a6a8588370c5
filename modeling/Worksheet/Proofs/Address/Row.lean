import Worksheet.Address.Basic

/-! Row numbers read back. A row number is at least one decimal digit, and one plus sign may stand
before them; the digits of a row of the sheet stand for it. -/

namespace Worksheet.Address

variable {cs ds : List Char} {n : Nat} {text : String} {row : UInt32}

theorem dropPlus_of_isNatural (h : Text.isNatural cs = true) : dropPlus cs = cs := by
  cases cs with
  | nil => rfl
  | cons c cs =>
    rw [dropPlus]
    intro _ same
    cases same
    cases h

theorem dropPlus_eq_iff (h : Text.isNatural ds = true) :
    dropPlus cs = ds ↔ cs = ds ∨ cs = '+' :: ds := by
  constructor
  · rintro rfl
    fun_cases dropPlus cs with
    | case1 ds => exact .inr rfl
    | case2 => exact .inl rfl
  · rintro (rfl | rfl)
    · exact dropPlus_of_isNatural h
    · rfl

theorem rowNumber?_eq_some_iff :
    rowNumber? cs = some n ↔ Text.isNatural (dropPlus cs) = true ∧
      Text.natOfDigits (dropPlus cs) = n ∧ n < UInt32.size := by
  simp only [rowNumber?, Bool.and_eq_true, decide_eq_true_eq, Option.ite_none_right_eq_some,
    Option.some.injEq]
  constructor
  · rintro ⟨⟨natural, lt⟩, rfl⟩
    exact ⟨natural, rfl, lt⟩
  · rintro ⟨natural, rfl, lt⟩
    exact ⟨⟨natural, lt⟩, rfl⟩

theorem rowIndex_eq_ok_iff :
    rowIndex text cs = .ok row ↔ Text.isNatural (dropPlus cs) = true ∧
      Text.natOfDigits (dropPlus cs) = row.toNat + 1 ∧ row.toNat < rowLimit := by
  constructor
  · intro h
    unfold rowIndex at h
    split at h
    · cases h
    · cases h
    · rename_i n read
      obtain ⟨natural, number, small⟩ := rowNumber?_eq_some_iff.1 read
      split at h
      · rename_i lt
        cases h
        have same : (UInt32.ofNat n).toNat = n := UInt32.toNat_ofNat_of_lt' (by omega)
        rw [same]
        exact ⟨natural, number, lt⟩
      · cases h
  · rintro ⟨natural, number, lt⟩
    have small : row.toNat + 1 < UInt32.size := by
      rw [rowLimit] at lt
      rw [UInt32.size]
      omega
    rw [rowIndex, rowNumber?_eq_some_iff.2 ⟨natural, number, small⟩]
    simp only [if_pos lt, UInt32.ofNat_toNat]

end Worksheet.Address
