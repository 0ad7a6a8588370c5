import Worksheet.Value.Basic
import Worksheet.Value.Collect

/-! Grids made from rules and from rows of values. A rule gives a value for each place, of which the
grid keeps the item; it is not asked before there is room for all of them. Rows are accepted when
they form a rectangle of items with at least one cell, and otherwise the first fault of the first
faulty row is reported, its length before its contents. -/

namespace Worksheet

namespace Grid

/-- The grid of an extent whose items a rule gives. -/
def tabulate (rows cols : Nat) (rows_pos : 0 < rows) (cols_pos : 0 < cols)
    (f : Nat → Nat → Item) : Grid :=
  .dense rows cols rows_pos cols_pos (Vector.ofFn fun i => f (i / cols) (i % cols))

/-- The grid of an extent whose cells a rule gives, unless the rule refuses at some place. -/
@[inline] def build (e : Extent) (f : Nat → Nat → Except Breach Value) : Except Breach Grid :=
  if h : 0 < e.rows ∧ 0 < e.cols then
    let rule i := (f (i / e.cols) (i % e.cols)).map Value.toItem
    (collect rule (e.rows * e.cols)).map (.dense e.rows e.cols h.1 h.2)
  else .error (.noCells e)

/-- The same, if there is room for so many cells. Room is taken before the rule is asked. -/
@[inline] def make (room : Nat) (e : Extent) (f : Nat → Nat → Except Breach Value) :
    Except Breach Grid := do
  e.reserve room
  build e f

def ofFn (room : Nat) (e : Extent) (f : Nat → Nat → Value) : Except Breach Grid :=
  make room e fun r c => .ok (f r c)

def filled (room : Nat) (e : Extent) (v : Value) : Except Breach Grid :=
  ofFn room e fun _ _ => .item v.toItem

/-- An allocation of less than `2 ^ 63` bytes has room for so many values of 48 bytes. -/
def capacity : Nat := 9223372036854775807 / 48

def map (g : Grid) (f : Item → Nat → Nat → Value) : Grid :=
  .dense g.rows g.cols g.rows_pos g.cols_pos
    (Vector.ofFn fun i =>
      (f (g.item (i / g.cols) (i % g.cols) (rowOf_lt i.isLt) (Nat.mod_lt _ g.cols_pos))
        (i / g.cols) (i % g.cols)).toItem)

theorem item_tabulate {rows cols : Nat} (hr : 0 < rows) (hc : 0 < cols) (f : Nat → Nat → Item)
    {r c : Nat} (h : r < rows) (h' : c < cols) :
    (tabulate rows cols hr hc f).item r c h h' = f r c := by
  have := rowMajor_lt h h'
  show (Vector.ofFn fun i : Fin (rows * cols) => f (i / cols) (i % cols))[r * cols + c] = f r c
  rw [Vector.getElem_ofFn]
  simp only [rowOf_rowMajor h', colOf_rowMajor h']

@[simp] theorem extent_map (g : Grid) (f : Item → Nat → Nat → Value) :
    (g.map f).extent = g.extent := rfl

theorem item_map (g : Grid) (f : Item → Nat → Nat → Value) {r c : Nat} (h : r < g.rows)
    (h' : c < g.cols) : (g.map f).item r c h h' = (f (g.item r c h h') r c).toItem := by
  have hr : (r * g.cols + c) / g.cols = r := rowOf_rowMajor h'
  have hc : (r * g.cols + c) % g.cols = c := colOf_rowMajor h'
  have := rowMajor_lt h h'
  show (Vector.ofFn fun i : Fin (g.rows * g.cols) => _)[r * g.cols + c] = _
  rw [Vector.getElem_ofFn]
  simp only [hr, hc]

theorem extent_of_build {e : Extent} {f : Nat → Nat → Except Breach Value} {g : Grid}
    (h : build e f = .ok g) : g.extent = e := by
  unfold build at h
  split at h
  · obtain ⟨items, -, rfl⟩ := map_eq_ok_iff.1 h
    rfl
  · cases h

theorem get?_of_build {e : Extent} {f : Nat → Nat → Except Breach Value} {g : Grid}
    (h : build e f = .ok g) {r c : Nat} (hr : r < e.rows) (hc : c < e.cols) :
    ∃ v, f r c = .ok v ∧ g.get? r c = some v.toItem := by
  unfold build at h
  split at h
  · obtain ⟨items, hi, rfl⟩ := map_eq_ok_iff.1 h
    have here := collect_eq_ok_iff.1 hi ⟨r * e.cols + c, rowMajor_lt hr hc⟩
    simp only [rowOf_rowMajor hc, colOf_rowMajor hc] at here
    obtain ⟨v, hv, hitem⟩ := map_eq_ok_iff.1 here
    exact ⟨v, hv, by rw [get?_eq_some_item _ hr hc, hitem]; rfl⟩
  · cases h

inductive RowsError where
  | noCells
  | ragged (row found expected : Nat)
  | nested (row col : Nat)
deriving DecidableEq, Repr

def RowsError.message : RowsError → String
  | noCells => "Invalid array shape: an array needs at least one row and one column"
  | ragged row found expected =>
    "Invalid array shape: row " ++ toString row ++ " has " ++ toString found ++
      " columns, expected " ++ toString expected
  | nested row col =>
    "Array element at row " ++ toString row ++ ", column " ++ toString col ++ " is itself an array"

def itemsOfRow (row : Nat) : Nat → List Value → Except RowsError (List Item)
  | _, [] => .ok []
  | col, .item i :: vs => (itemsOfRow row (col + 1) vs).map (i :: ·)
  | col, .grid _ :: _ => .error (.nested row col)

def itemsOfRows (cols : Nat) : Nat → List (List Value) → Except RowsError (List Item)
  | _, [] => .ok []
  | row, vs :: rest =>
    if vs.length = cols then do
      let here ← itemsOfRow row 0 vs
      let below ← itemsOfRows cols (row + 1) rest
      return here ++ below
    else .error (.ragged row vs.length cols)

theorem length_of_itemsOfRow {row col : Nat} {vs : List Value} {items : List Item}
    (h : itemsOfRow row col vs = .ok items) : items.length = vs.length := by
  induction vs generalizing col items with
  | nil => cases h; rfl
  | cons v vs ih =>
    rcases v with i | g
    · rw [itemsOfRow] at h
      cases hr : itemsOfRow row (col + 1) vs with
      | error e => rw [hr] at h; cases h
      | ok rest => rw [hr] at h; cases h; simp [ih hr]
    · cases h

theorem length_of_itemsOfRows {cols row : Nat} {rows : List (List Value)} {items : List Item}
    (h : itemsOfRows cols row rows = .ok items) : items.length = rows.length * cols := by
  induction rows generalizing row items with
  | nil => cases h; simp
  | cons vs rest ih =>
    rw [itemsOfRows] at h
    split at h
    · rename_i hlen
      cases hh : itemsOfRow row 0 vs with
      | error e => rw [hh] at h; cases h
      | ok here =>
        cases hb : itemsOfRows cols (row + 1) rest with
        | error e => rw [hh, hb] at h; cases h
        | ok below =>
          rw [hh, hb] at h; cases h
          simp [length_of_itemsOfRow hh, ih hb, hlen, Nat.succ_mul, Nat.add_comm]
    · cases h

def ofRows (rows : List (List Value)) : Except RowsError Grid :=
  let cols := (rows.headD []).length
  if hpos : 0 < rows.length ∧ 0 < cols then
    match h : itemsOfRows cols 0 rows with
    | .ok items =>
      .ok (.dense rows.length cols hpos.1 hpos.2
        ⟨items.toArray, by simpa using length_of_itemsOfRows h⟩)
    | .error e => .error e
  else .error .noCells

end Grid

namespace Value

def map (v : Value) (f : Item → Nat → Nat → Value) : Value :=
  match v with
  | grid g => grid (g.map f)
  | item i => f i 0 0

end Value

end Worksheet
