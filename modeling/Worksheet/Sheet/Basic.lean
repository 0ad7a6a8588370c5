import Worksheet.Range
import Worksheet.Sheet.Rows
import Worksheet.Value.Basic

/-! Sparse storage of cells. A sheet maps finitely many addresses to cells that are not blank, in
tidy rows: setting a cell to blank takes it out, and a row goes with its last cell. The entries come
in address order, row by row. The used range starts at the first stored row and ends at the last,
and each row widens its columns. A value is stored in one cell, where a grid leaves only the marker
for a wrong value, or it is spilled, so that each item of a grid gets a cell of its own. -/

namespace Worksheet

structure Sheet where
  rows : Rows
  tidy : rows.Tidy

namespace Sheet

def empty : Sheet := ⟨∅, Rows.tidy_empty⟩

def get? (s : Sheet) (a : Address) : Option Cell := s.rows.cell? a

def erase (s : Sheet) (a : Address) : Sheet := ⟨s.rows.drop a, s.tidy.drop a⟩

def set (s : Sheet) (a : Address) (c : Cell) : Sheet :=
  if h : c.isBlank then s.erase a
  else ⟨s.rows.put a c, s.tidy.put a (Bool.eq_false_iff.2 h)⟩

def remove (s : Sheet) (a : Address) : Option Cell × Sheet := (s.get? a, s.erase a)

def size (s : Sheet) : Nat := s.rows.foldl (fun n _ row => n + row.size) 0

def isEmpty (s : Sheet) : Bool := s.rows.isEmpty

def entries (s : Sheet) : List (Address × Cell) :=
  s.rows.toList.flatMap fun (r, row) => row.toList.map fun (k, c) => (⟨r, k⟩, c)

def usedRange (s : Sheet) : Option Range :=
  match s.rows.minKey?, s.rows.maxKey? with
  | some top, some bottom =>
    let left := s.rows.foldl (fun left _ row => row.minKey?.elim left (min left)) 65535
    let right := s.rows.foldl (fun right _ row => row.maxKey?.elim right (max right)) 0
    some (.ofCorners ⟨top, left⟩ ⟨bottom, right⟩)
  | _, _ => none

@[simp] theorem get?_empty (a : Address) : empty.get? a = none := by
  simp [empty, get?, Rows.cell?]

theorem get?_erase (s : Sheet) (a b : Address) :
    (s.erase a).get? b = if a = b then none else s.get? b :=
  s.rows.cell?_drop a b

theorem get?_set (s : Sheet) (a b : Address) (c : Cell) :
    (s.set a c).get? b = if a = b then (if c.isBlank then none else some c) else s.get? b := by
  unfold set
  split
  · simp [get?_erase, *]
  · simp [get?, Rows.cell?_put, *]

def store (s : Sheet) (a : Address) (v : Value) : Sheet := s.set a v.toCell

def place (s : Sheet) (a : Address) (items : List (Nat × Nat × Item)) : Sheet :=
  items.foldl (fun s (r, c, i) => s.set (a.offset r c) i.toCell) s

def spill (s : Sheet) (a : Address) : Value → Sheet
  | .item i => s.set a i.toCell
  | .grid g => s.place a g.entries

def ofList (cells : List (Address × Cell)) : Sheet :=
  cells.foldl (fun s (a, c) => s.set a c) empty

end Sheet

end Worksheet
