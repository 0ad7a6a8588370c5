import Worksheet.Extent
import Worksheet.Range
import Worksheet.Value.Item

/-! Grids: rectangular blocks of items with at least one row and one column. A grid either holds its
items, row by row, or is a window on a range of a source, whose cells are read when they are asked
for. Either way it is known by its extent and the item at each place. -/

namespace Worksheet

theorem rowMajor_lt {rows cols r c : Nat} (hr : r < rows) (hc : c < cols) :
    r * cols + c < rows * cols :=
  calc
    r * cols + c < r * cols + cols := Nat.add_lt_add_left hc _
    _ = (r + 1) * cols := (Nat.succ_mul r cols).symm
    _ ≤ rows * cols := Nat.mul_le_mul_right _ hr

theorem rowOf_lt {rows cols i : Nat} (h : i < rows * cols) : i / cols < rows :=
  Nat.div_lt_of_lt_mul (Nat.mul_comm rows cols ▸ h)

theorem rowOf_rowMajor {cols r c : Nat} (hc : c < cols) : (r * cols + c) / cols = r := by
  rw [Nat.mul_comm, Nat.mul_add_div (by omega), Nat.div_eq_of_lt hc, Nat.add_zero]

theorem colOf_rowMajor {cols r c : Nat} (hc : c < cols) : (r * cols + c) % cols = c := by
  rw [Nat.mul_comm, Nat.mul_add_mod, Nat.mod_eq_of_lt hc]

inductive Grid where
  | dense (rows cols : Nat) (rows_pos : 0 < rows) (cols_pos : 0 < cols)
      (items : Vector Item (rows * cols))
  | window (source : Source) (range : Range)

namespace Grid

def rows : Grid → Nat
  | dense rows _ _ _ _ => rows
  | window _ range => range.rowCount

def cols : Grid → Nat
  | dense _ cols _ _ _ => cols
  | window _ range => range.colCount

def extent (g : Grid) : Extent := ⟨g.rows, g.cols⟩

theorem rows_pos : (g : Grid) → 0 < g.rows
  | dense _ _ h _ _ => h
  | window _ range => range.rowCount_pos

theorem cols_pos : (g : Grid) → 0 < g.cols
  | dense _ _ _ h _ => h
  | window _ range => range.colCount_pos

def item : (g : Grid) → (r c : Nat) → r < g.rows → c < g.cols → Item
  | dense _ cols _ _ items, r, c, hr, hc =>
    have := rowMajor_lt hr hc
    items[r * cols + c]
  | window source range, r, c, _, _ => .ofCell? (source (range.first.offset r c))

def get? (g : Grid) (r c : Nat) : Option Item :=
  if h : r < g.rows ∧ c < g.cols then some (g.item r c h.1 h.2) else none

def get (g : Grid) (r c : Nat) : Except Breach Item :=
  match g.get? r c with
  | some i => .ok i
  | none => .error (.outside r c g.extent)

def first (g : Grid) : Item := g.item 0 0 g.rows_pos g.cols_pos

def toRows (g : Grid) : List (List Item) :=
  List.ofFn fun r : Fin g.rows => List.ofFn fun c : Fin g.cols => g.item r c r.isLt c.isLt

def entries (g : Grid) : List (Nat × Nat × Item) :=
  (List.ofFn fun r : Fin g.rows =>
    List.ofFn fun c : Fin g.cols => (r.val, c.val, g.item r c r.isLt c.isLt)).flatten

def display (g : Grid) : String :=
  let rows := g.toRows.map fun row => ",".intercalate (row.map Item.display)
  "\x7b" ++ ";".intercalate rows ++ "\x7d"

/-- Equal extents and the same item at every place. Places are compared row by row, and only up to
the first difference. -/
def same (g h : Grid) : Bool :=
  g.extent == h.extent &&
    g.rows.all fun r hr => g.cols.all fun c hc =>
      match h.get? r c with
      | some i => (g.item r c hr hc).same i
      | none => false

@[simp] theorem get?_eq_some_item (g : Grid) {r c : Nat} (hr : r < g.rows) (hc : c < g.cols) :
    g.get? r c = some (g.item r c hr hc) := by
  simp [get?, hr, hc]

@[simp] theorem isSome_get? (g : Grid) (r c : Nat) :
    (g.get? r c).isSome = true ↔ r < g.rows ∧ c < g.cols := by
  unfold get?; split <;> simp_all

theorem get?_eq_none_iff (g : Grid) (r c : Nat) :
    g.get? r c = none ↔ ¬(r < g.rows ∧ c < g.cols) := by
  unfold get?; split <;> simp_all

theorem get_eq_ok_iff (g : Grid) (r c : Nat) (i : Item) :
    g.get r c = .ok i ↔ g.get? r c = some i := by
  unfold get; split <;> simp_all

theorem get?_zero (g : Grid) : g.get? 0 0 = some g.first :=
  g.get?_eq_some_item g.rows_pos g.cols_pos

end Grid

end Worksheet
