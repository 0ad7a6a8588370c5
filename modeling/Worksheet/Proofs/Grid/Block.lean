import Worksheet.Proofs.Grid.Rows
import Worksheet.Proofs.Grid.Window
import Worksheet.Proofs.Signature

/-! Grids as they are stored. A block is what is kept of a grid: its size, and either its cells row
by row or a source and the address of the first cell. As such it promises nothing, and may be empty,
have too few cells, hold grids in its cells or go beyond the last address. Main statement: the
blocks of grids are exactly the well-formed ones, in which each place has a cell and no cell is a
grid. -/

namespace Worksheet

inductive Block where
  | held (rows cols : Nat) (cells : List Value)
  | viewed (rows cols : Nat) (source : Source) (origin : Address)

namespace Block

def rows : Block → Nat
  | held rows _ _ => rows
  | viewed rows _ _ _ => rows

def cols : Block → Nat
  | held _ cols _ => cols
  | viewed _ cols _ _ => cols

def cell? (b : Block) (r c : Nat) : Option Value :=
  if r < b.rows ∧ c < b.cols then
    match b with
    | held _ cols cells => cells[r * cols + c]?
    | viewed _ _ source origin => some (.item (.ofCell? (source (origin.offset r c))))
  else none

def WellFormed : Block → Prop
  | held rows cols cells =>
    0 < rows ∧ 0 < cols ∧ cells.length = rows * cols ∧ ∀ v ∈ cells, v.isGrid = false
  | viewed rows cols _ origin =>
    0 < rows ∧ 0 < cols ∧
      origin.row.toNat + rows ≤ UInt32.size ∧ origin.col.toNat + cols ≤ UInt16.size

variable {b : Block} {r c : Nat}

theorem WellFormed.exists_cell?_iff (h : b.WellFormed) :
    (∃ v, b.cell? r c = some v) ↔ r < b.rows ∧ c < b.cols := by
  unfold cell?
  split
  · rename_i inside
    cases b with
    | held rows cols cells =>
      have lt : r * cols + c < cells.length := by
        rw [h.2.2.1]
        exact rowMajor_lt inside.1 inside.2
      simp only [inside, List.getElem?_eq_getElem lt]
      simp
    | viewed rows cols source origin => simp only [inside]; simp
  · simp_all

theorem WellFormed.isGrid_of_cell? (h : b.WellFormed) {v : Value} (hv : b.cell? r c = some v) :
    v.isGrid = false := by
  unfold cell? at hv
  split at hv
  · cases b with
    | held rows cols cells => exact h.2.2.2 v (List.mem_of_getElem? hv)
    | viewed rows cols source origin =>
      cases hv
      rfl
  · cases hv

end Block

namespace Grid

def block : Grid → Block
  | dense rows cols _ _ items => .held rows cols (items.toList.map .item)
  | window source range => .viewed range.rowCount range.colCount source range.first

@[simp] theorem rows_block (g : Grid) : g.block.rows = g.rows := by cases g <;> rfl

@[simp] theorem cols_block (g : Grid) : g.block.cols = g.cols := by cases g <;> rfl

theorem cell?_block (g : Grid) (r c : Nat) : g.block.cell? r c = (g.get? r c).map .item := by
  unfold Block.cell?
  rw [rows_block, cols_block]
  split
  · rename_i inside
    cases g with
    | dense rows cols hr hc items =>
      change r < rows ∧ c < cols at inside
      rw [get?_dense, if_pos inside]
      exact List.getElem?_map ..
    | window source range =>
      rw [get?_window inside.1 inside.2]
      rfl
  · rename_i outside
    rw [(g.get?_eq_none_iff r c).2 outside]
    rfl

theorem wellFormed_block (g : Grid) : g.block.WellFormed := by
  cases g with
  | dense rows cols hr hc items =>
    refine ⟨hr, hc, by simp, fun v hv => ?_⟩
    obtain ⟨i, -, rfl⟩ := List.mem_map.1 hv
    rfl
  | window source range =>
    have rows := UInt32.le_iff_toNat_le.1 range.row_le
    have cols := UInt16.le_iff_toNat_le.1 range.col_le
    have row := range.last.row.toNat_lt_size
    have col := range.last.col.toNat_lt_size
    refine ⟨range.rowCount_pos, range.colCount_pos, ?_, ?_⟩
    · rw [Range.rowCount]
      omega
    · rw [Range.colCount]
      omega

theorem exists_block_iff {b : Block} : (∃ g : Grid, g.block = b) ↔ b.WellFormed := by
  constructor
  · rintro ⟨g, rfl⟩
    exact g.wellFormed_block
  · intro h
    cases b with
    | held rows cols cells =>
      obtain ⟨hr, hc, length, items⟩ := h
      refine ⟨.dense rows cols hr hc ⟨(cells.map Value.toItem).toArray, by simp [length]⟩, ?_⟩
      exact congrArg (Block.held rows cols) (Value.map_toItem items)
    | viewed rows cols source origin =>
      obtain ⟨hr, hc, row, col⟩ := h
      obtain ⟨first, rowCount, colCount⟩ := Range.ofCorners_offset hr hc row col
      refine ⟨.window source (.ofCorners origin (origin.offset (rows - 1) (cols - 1))), ?_⟩
      simp only [block, first, rowCount, colCount]

end Grid

end Worksheet
