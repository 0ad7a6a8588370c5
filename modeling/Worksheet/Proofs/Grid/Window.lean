import Worksheet.Proofs.Grid.Build

/-! What a window reads. Its range ends where addresses end at the latest, so the address at a place
of the window is found without going beyond the last row or column, and lies in the range. Windows
on sources that agree on the range therefore read alike. -/

namespace Worksheet

namespace Range

variable {range : Range} {a : Address} {r c : Nat}

theorem contains_iff_toNat :
    range.contains a = true ↔
      (range.first.row.toNat ≤ a.row.toNat ∧ a.row.toNat ≤ range.last.row.toNat) ∧
        range.first.col.toNat ≤ a.col.toNat ∧ a.col.toNat ≤ range.last.col.toNat := by
  simp only [contains, Bool.and_eq_true, decide_eq_true_eq, UInt32.le_iff_toNat_le,
    UInt16.le_iff_toNat_le]

theorem row_offset (h : r < range.rowCount) :
    (range.first.offset r c).row.toNat = range.first.row.toNat + r := by
  have ordered := UInt32.le_iff_toNat_le.1 range.row_le
  have last := range.last.row.toNat_lt
  unfold rowCount at h
  simp only [Address.offset, UInt32.toNat_add, UInt32.toNat_ofNat']
  omega

theorem col_offset (h : c < range.colCount) :
    (range.first.offset r c).col.toNat = range.first.col.toNat + c := by
  have ordered := UInt16.le_iff_toNat_le.1 range.col_le
  have last := range.last.col.toNat_lt
  unfold colCount at h
  simp only [Address.offset, UInt16.toNat_add, UInt16.toNat_ofNat']
  omega

theorem contains_offset (hr : r < range.rowCount) (hc : c < range.colCount) :
    range.contains (range.first.offset r c) = true := by
  have row := @row_offset range r c hr
  have col := @col_offset range r c hc
  have rows := UInt32.le_iff_toNat_le.1 range.row_le
  have cols := UInt16.le_iff_toNat_le.1 range.col_le
  unfold rowCount at hr
  unfold colCount at hc
  rw [contains_iff_toNat, row, col]
  omega

theorem ofCorners_of_le {a b : Address} (row : a.row ≤ b.row) (col : a.col ≤ b.col) :
    ofCorners a b = ⟨a, b, row, col⟩ := by
  have top : min a.row b.row = a.row := if_pos row
  have left : min a.col b.col = a.col := if_pos col
  have bottom : max a.row b.row = b.row := if_pos row
  have right : max a.col b.col = b.col := if_pos col
  simp only [ofCorners, top, left, bottom, right]

theorem ofCorners_offset {a : Address} {rows cols : Nat} (hr : 0 < rows) (hc : 0 < cols)
    (row : a.row.toNat + rows ≤ UInt32.size) (col : a.col.toNat + cols ≤ UInt16.size) :
    (ofCorners a (a.offset (rows - 1) (cols - 1))).first = a ∧
      (ofCorners a (a.offset (rows - 1) (cols - 1))).rowCount = rows ∧
      (ofCorners a (a.offset (rows - 1) (cols - 1))).colCount = cols := by
  have lastRow : (a.offset (rows - 1) (cols - 1)).row.toNat = a.row.toNat + (rows - 1) := by
    simp only [Address.offset, UInt32.toNat_add, UInt32.toNat_ofNat']
    rw [UInt32.size] at row
    omega
  have lastCol : (a.offset (rows - 1) (cols - 1)).col.toNat = a.col.toNat + (cols - 1) := by
    simp only [Address.offset, UInt16.toNat_add, UInt16.toNat_ofNat']
    rw [UInt16.size] at col
    omega
  rw [ofCorners_of_le (UInt32.le_iff_toNat_le.2 (by omega)) (UInt16.le_iff_toNat_le.2 (by omega))]
  refine ⟨rfl, ?_, ?_⟩
  · simp only [rowCount, lastRow]
    omega
  · simp only [colCount, lastCol]
    omega

theorem offset_inj {r' c' : Nat} (hr : r < range.rowCount) (hc : c < range.colCount)
    (hr' : r' < range.rowCount) (hc' : c' < range.colCount)
    (same : range.first.offset r c = range.first.offset r' c') : r = r' ∧ c = c' := by
  have row := @row_offset range r c hr
  have col := @col_offset range r c hc
  rw [same, row_offset hr'] at row
  rw [same, col_offset hc'] at col
  omega

end Range

namespace Grid

variable {source source' : Source} {range : Range}

theorem get?_window {r c : Nat} (hr : r < range.rowCount) (hc : c < range.colCount) :
    (window source range).get? r c = some (.ofCell? (source (range.first.offset r c))) :=
  (window source range).get?_eq_some_item hr hc

theorem window_shows (source : Source) (range : Range) :
    (window source range).Shows ⟨range.rowCount, range.colCount⟩ fun r c =>
      .ofCell? (source (range.first.offset r c)) where
  extent := rfl
  get? hr hc := get?_window hr hc

theorem get?_window_congr
    (agree : ∀ a, range.contains a = true → Item.ofCell? (source a) = .ofCell? (source' a))
    {r c : Nat} (hr : r < range.rowCount) (hc : c < range.colCount) :
    (window source range).get? r c = (window source' range).get? r c := by
  rw [get?_window hr hc, get?_window hr hc, agree _ (Range.contains_offset hr hc)]

end Grid

end Worksheet
