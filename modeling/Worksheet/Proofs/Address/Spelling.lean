import Mathlib.Tactic.SplitIfs
import Worksheet.Proofs.Address.Column
import Worksheet.Proofs.Address.Row
import Worksheet.Proofs.Grid.Build
import Worksheet.Proofs.Text.Trim

/-! The texts that are read as addresses. Once blanks at the ends and dollar signs anywhere are
gone, they are the letters of a column followed by the digits of a row, and between the two a plus
sign may stand. -/

namespace Worksheet.Address

variable {letters digits rest : List Char} {a : Address} {s : String}

structure Named (a : Address) : Prop where
  row : a.row.toNat < rowLimit
  col : a.col.toNat < columnLimit

/-- Letters and digits are the column and the row of an address within the limits, both counted from
one: the letters of either case in bijective base 26, the digits in decimal. -/
structure Spells (letters digits : List Char) (a : Address) : Prop where
  letters_ne_nil : letters ≠ []
  alpha : ∀ c ∈ letters, c.isAlpha = true
  natural : Text.isNatural digits = true
  col : Column.numberFrom 0 letters = a.col.toNat + 1
  row : Text.natOfDigits digits = a.row.toNat + 1
  named : a.Named

theorem Spells.ofLetters (h : Spells letters digits a) : Column.ofLetters letters = .ok a.col :=
  Column.ofLetters_eq_ok_iff.2 ⟨h.alpha, h.col, h.named.col⟩

theorem Spells.rowIndex (h : Spells letters digits a) (plus : dropPlus rest = digits) :
    rowIndex s rest = .ok a.row :=
  rowIndex_eq_ok_iff.2 (by rw [plus]; exact ⟨h.natural, h.row, h.named.row⟩)

theorem spells_of_read (col : Column.ofLetters letters = .ok a.col)
    (row : rowIndex s rest = .ok a.row) : Spells letters (dropPlus rest) a := by
  obtain ⟨alpha, colNumber, colLt⟩ := Column.ofLetters_eq_ok_iff.1 col
  obtain ⟨natural, rowNumber, rowLt⟩ := rowIndex_eq_ok_iff.1 row
  refine ⟨?_, alpha, natural, colNumber, rowNumber, rowLt, colLt⟩
  rintro rfl
  cases colNumber

theorem isAlpha_head?_of_dropPlus (natural : Text.isNatural digits = true)
    (plus : dropPlus rest = digits) : ∀ c ∈ rest.head?, c.isAlpha = false := by
  rcases (dropPlus_eq_iff natural).1 plus with rfl | rfl
  · intro c hc
    exact Text.isAlpha_of_isDigit (Text.isDigit_of_isNatural natural c (List.mem_of_mem_head? hc))
  · intro c hc
    cases hc
    rfl

theorem parse_eq_ok_iff_span :
    parse s = .ok a ↔
      Column.ofLetters ((significant s).takeWhile Char.isAlpha) = .ok a.col ∧
        rowIndex s ((significant s).dropWhile Char.isAlpha) = .ok a.row := by
  constructor
  · intro h
    unfold parse at h
    simp only at h
    split_ifs at h
    obtain ⟨col, hcol, more⟩ := bind_eq_ok_iff.1 h
    obtain ⟨row, hrow, made⟩ := bind_eq_ok_iff.1 more
    cases made
    exact ⟨hcol, hrow⟩
  · rintro ⟨col, row⟩
    have spells := spells_of_read col row
    have digits : (significant s).dropWhile Char.isAlpha ≠ [] := by
      intro none
      rw [none] at row
      cases row
    have body : significant s ≠ [] := by
      intro none
      rw [none] at digits
      exact digits rfl
    simp only [parse, if_neg body, if_neg spells.letters_ne_nil, if_neg digits, col, row]
    rfl

theorem parse_eq_ok_iff :
    parse s = .ok a ↔ ∃ letters digits, Spells letters digits a ∧
      (significant s = letters ++ digits ∨ significant s = letters ++ '+' :: digits) := by
  rw [parse_eq_ok_iff_span]
  constructor
  · rintro ⟨col, row⟩
    have spells := spells_of_read col row
    have cut := (significant s).takeWhile_append_dropWhile (p := Char.isAlpha)
    -- What follows the letters is what is left of it without the sign, or that after the sign.
    refine ⟨_, _, spells, ((dropPlus_eq_iff spells.natural).1 rfl).imp ?_ ?_⟩
    · intro plain
      rw [← plain, cut]
    · intro signed
      rw [← signed, cut]
  · rintro ⟨letters, digits, spells, spelt⟩
    obtain ⟨rest, cut, plus⟩ :
        ∃ rest, significant s = letters ++ rest ∧ dropPlus rest = digits := by
      rcases spelt with plain | signed
      · exact ⟨_, plain, dropPlus_of_isNatural spells.natural⟩
      · exact ⟨_, signed, rfl⟩
    obtain ⟨take, drop⟩ :=
      Text.span_append spells.alpha (isAlpha_head?_of_dropPlus spells.natural plus)
    rw [cut, take, drop]
    exact ⟨spells.ofLetters, spells.rowIndex plus⟩

/-- A text is read as an address when what trimming leaves of it, without its dollar signs, is the
letters and the digits of that address, with at most one plus sign and nothing else between them. -/
theorem parse_accepts (s : String) (a : Address) :
    parse s = .ok a ↔ ∃ t letters digits, Text.Trims s.toList t ∧ Spells letters digits a ∧
      (t.filter (· ≠ '$') = letters ++ digits ∨ t.filter (· ≠ '$') = letters ++ '+' :: digits) := by
  rw [parse_eq_ok_iff]
  constructor
  · rintro ⟨letters, digits, spells, spelt⟩
    exact ⟨_, letters, digits, Text.trims_strip _, spells, spelt⟩
  · rintro ⟨t, letters, digits, trims, spells, spelt⟩
    rw [← trims.strip_eq] at spelt
    exact ⟨letters, digits, spells, spelt⟩

/-- The letters and the digits alone do not make up every text that is read: the sign is read
too. -/
theorem parse_plus :
    ¬∀ (s : String) (a : Address), parse s = .ok a ↔ ∃ t letters digits,
      Text.Trims s.toList t ∧ Spells letters digits a ∧ t.filter (· ≠ '$') = letters ++ digits := by
  intro plain
  have read : parse "A+1" = .ok ⟨0, 0⟩ := rfl
  obtain ⟨t, letters, digits, trims, spells, spelt⟩ := (plain _ _).1 read
  have body : t = ['A', '+', '1'] := trims.strip_eq.symm
  have mem : '+' ∈ letters ++ digits := by
    rw [← spelt, body]
    decide
  rcases List.mem_append.1 mem with letter | digit
  · exact absurd (spells.alpha _ letter) (by decide)
  · exact absurd (Text.isDigit_of_isNatural spells.natural _ digit) (by decide)

end Worksheet.Address
