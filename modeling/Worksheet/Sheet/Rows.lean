import Std.Data.TreeMap.Lemmas
import Worksheet.Cell

/-! Cells stored row by row. Each stored row is found by its index and maps its columns to cells.
Putting a cell opens its row if need be, and dropping the last cell of a row closes it. Rows are
tidy when none of them is without a cell and no cell is blank, and both operations keep them so. -/

namespace Worksheet

abbrev Row := Std.TreeMap UInt16 Cell

abbrev Rows := Std.TreeMap UInt32 Row

namespace Rows

def cell? (rows : Rows) (a : Address) : Option Cell := rows[a.row]?.bind fun row => row[a.col]?

def put (rows : Rows) (a : Address) (c : Cell) : Rows :=
  rows.insert a.row ((rows.getD a.row ∅).insert a.col c)

def settle (rows : Rows) (r : UInt32) (row : Row) : Rows :=
  if row.isEmpty then rows.erase r else rows.insert r row

def drop (rows : Rows) (a : Address) : Rows :=
  match rows[a.row]? with
  | none => rows
  | some row => rows.settle a.row (row.erase a.col)

/-- Each stored row has a cell, and no stored cell is blank. -/
structure Tidy (rows : Rows) : Prop where
  row_nonempty : ∀ {r : UInt32} {row : Row}, rows[r]? = some row → row.isEmpty = false
  cell_nonblank : ∀ {r : UInt32} {row : Row} {k : UInt16} {c : Cell},
    rows[r]? = some row → row[k]? = some c → c.isBlank = false

theorem tidy_empty : Tidy ∅ where
  row_nonempty h := by simp at h
  cell_nonblank h := by simp at h

theorem getElem?_put (rows : Rows) (a : Address) (c : Cell) (r : UInt32) :
    (rows.put a c)[r]? =
      if a.row = r then some ((rows.getD a.row ∅).insert a.col c) else rows[r]? := by
  simp [put, Std.TreeMap.getElem?_insert]

theorem getElem?_settle (rows : Rows) (r r' : UInt32) (row : Row) :
    (rows.settle r row)[r']? =
      if r = r' then (if row.isEmpty then none else some row) else rows[r']? := by
  unfold settle
  split
  · simp [Std.TreeMap.getElem?_erase]
  · simp [Std.TreeMap.getElem?_insert]

theorem getElem?_drop (rows : Rows) (a : Address) (r : UInt32) :
    (rows.drop a)[r]? =
      if a.row = r then
        rows[r]?.bind fun row =>
          if (row.erase a.col).isEmpty then none else some (row.erase a.col)
      else rows[r]? := by
  unfold drop
  split
  · rename_i absent
    split
    · rename_i here
      rw [← here, absent]
      rfl
    · rfl
  · rename_i row present
    rw [getElem?_settle]
    split
    · rename_i here
      rw [← here, present]
      rfl
    · rfl

theorem Tidy.put {rows : Rows} (tidy : rows.Tidy) (a : Address) {c : Cell}
    (h : c.isBlank = false) : (rows.put a c).Tidy where
  row_nonempty found := by
    rw [getElem?_put] at found
    split at found
    · cases found
      exact Std.TreeMap.isEmpty_insert
    · exact tidy.row_nonempty found
  cell_nonblank found here := by
    rw [getElem?_put] at found
    split at found
    · cases found
      rw [Std.TreeMap.getElem?_insert] at here
      split at here
      · cases here
        exact h
      · -- The other cells of the row are those of an empty row that was opened, or of a tidy one.
        rw [Std.TreeMap.getD_eq_getD_getElem?] at here
        cases before : rows[a.row]? with
        | none => simp [before] at here
        | some row => exact tidy.cell_nonblank before (by simpa [before] using here)
    · exact tidy.cell_nonblank found here

theorem Tidy.drop {rows : Rows} (tidy : rows.Tidy) (a : Address) : (rows.drop a).Tidy where
  row_nonempty found := by
    rw [getElem?_drop] at found
    split at found
    · obtain ⟨row, -, kept⟩ := Option.bind_eq_some_iff.1 found
      split at kept
      · cases kept
      · rename_i rest
        cases kept
        exact Bool.eq_false_iff.2 rest
    · exact tidy.row_nonempty found
  cell_nonblank found here := by
    rw [getElem?_drop] at found
    split at found
    · obtain ⟨row, before, kept⟩ := Option.bind_eq_some_iff.1 found
      split at kept
      · cases kept
      · cases kept
        rw [Std.TreeMap.getElem?_erase] at here
        split at here
        · cases here
        · exact tidy.cell_nonblank before here
    · exact tidy.cell_nonblank found here

theorem cell?_put (rows : Rows) (a b : Address) (c : Cell) :
    (rows.put a c).cell? b = if a = b then some c else rows.cell? b := by
  obtain ⟨r, k⟩ := a
  obtain ⟨r', k'⟩ := b
  rw [cell?, getElem?_put]
  by_cases row : r = r'
  · subst row
    by_cases col : k = k'
    · simp [col]
    · cases before : rows[r]? <;>
        simp [Std.TreeMap.getElem?_insert, Std.TreeMap.getD_eq_getD_getElem?, cell?, before, col]
  · simp [cell?, row]

theorem cell?_drop (rows : Rows) (a b : Address) :
    (rows.drop a).cell? b = if a = b then none else rows.cell? b := by
  obtain ⟨r, k⟩ := a
  obtain ⟨r', k'⟩ := b
  rw [cell?, getElem?_drop]
  by_cases row : r = r'
  · subst row
    cases before : rows[r]? with
    | none => simp [cell?, before]
    | some row =>
      -- A row that is closed reads like the empty one in its place.
      have closed : ((if (row.erase k).isEmpty then none else some (row.erase k)).bind
          fun row => row[k']?) = (row.erase k)[k']? := by
        split
        · rename_i empty
          rw [Std.TreeMap.getElem?_of_isEmpty empty]
          rfl
        · rfl
      rw [if_pos rfl, Option.bind_some, closed, Std.TreeMap.getElem?_erase]
      by_cases col : k = k' <;> simp [cell?, before, col]
  · simp [cell?, row]

end Rows

end Worksheet
