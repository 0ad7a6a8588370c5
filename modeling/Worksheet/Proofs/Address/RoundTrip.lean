import Worksheet.Proofs.Address.Spelling

/-! Addresses as texts. The text of an address within the limits has no blank, no dollar sign and no
colon, spells the address, and so reads as it. Every address that is read lies within the limits. -/

namespace Worksheet

namespace Address

variable {a : Address} {c : Char} {s : String}

theorem toList_text (a : Address) :
    a.text.toList = Column.letters (a.col.toNat + 1) ++ Text.digits (a.row.toNat + 1) := by
  rw [text, String.toList_append, Column.name, String.toList_ofList, Text.toList_toString]

theorem isAlphanum_of_mem_text (h : c ∈ a.text.toList) : c.isAlphanum = true := by
  rw [toList_text, List.mem_append] at h
  rw [Char.isAlphanum, Bool.or_eq_true]
  exact h.imp Column.isAlpha_of_mem_letters Text.isDigit_of_mem_digits

theorem not_mem_text (a : Address) (h : c.isAlphanum = false) : c ∉ a.text.toList := by
  intro mem
  rw [isAlphanum_of_mem_text mem] at h
  cases h

theorem toList_text_ne_nil (a : Address) : a.text.toList ≠ [] := by
  rw [toList_text]
  exact List.append_ne_nil_of_left_ne_nil (Column.letters_ne_nil _) _

theorem isBlank_of_mem_text (a : Address) (h : c ∈ a.text.toList) : Text.isBlank c = false :=
  Text.isBlank_of_isAlphanum (isAlphanum_of_mem_text h)

theorem strip_text (a : Address) : Text.strip a.text.toList = a.text.toList :=
  Text.strip_eq_self (fun _ hc => a.isBlank_of_mem_text (List.mem_of_mem_head? hc))
    fun _ hc => a.isBlank_of_mem_text (List.mem_of_mem_getLast? hc)

theorem significant_text (a : Address) : significant a.text = a.text.toList := by
  rw [significant, strip_text, List.filter_eq_self]
  intro c mem
  rw [decide_eq_true_eq]
  rintro rfl
  exact a.not_mem_text rfl mem

theorem spells_text (named : a.Named) :
    Spells (Column.letters (a.col.toNat + 1)) (Text.digits (a.row.toNat + 1)) a where
  letters_ne_nil := Column.letters_ne_nil _
  alpha _ hc := Column.isAlpha_of_mem_letters hc
  natural := Text.isNatural_digits _
  col := Column.numberFrom_letters _
  row := Text.natOfDigits_digits _
  named := named

theorem parse_text (named : a.Named) : parse a.text = .ok a :=
  parse_eq_ok_iff.2 ⟨_, _, spells_text named, .inl (by rw [significant_text, toList_text])⟩

theorem named_of_parse (h : parse s = .ok a) : a.Named := by
  obtain ⟨letters, digits, spells, -⟩ := parse_eq_ok_iff.1 h
  exact spells.named

end Address

end Worksheet
