import Worksheet.Proofs.Grid.RowsError
import Worksheet.Proofs.WellFormed

/-! Rows of values as rectangles. Rows are read one after the other, each for its length and then
for its values, and the first fault found ends the reading. Main statement: rows make a grid exactly
when they are a rectangle of items, the grid then gives the rows back, and otherwise the fault that
is named is that of the first row with one. -/

namespace Worksheet

namespace Grid

variable {cols row col : Nat} {vs : List Value} {rows : List (List Value)} {e : RowsError}
  {g : Grid}

def IsSound (cols : Nat) (vs : List Value) : Prop :=
  vs.length = cols ∧ ∀ v ∈ vs, v.isGrid = false

/-- What is wrong with a row. A wrong length is named before anything that is in the row, and of
several grids the first. -/
inductive RowFault (cols row : Nat) : List Value → RowsError → Prop
  | ragged {vs : List Value} (other : vs.length ≠ cols) :
    RowFault cols row vs (.ragged row vs.length cols)
  | nested {left right : List Value} {g : Grid}
    (length : (left ++ .grid g :: right).length = cols) (items : ∀ v ∈ left, v.isGrid = false) :
    RowFault cols row (left ++ .grid g :: right) (.nested row left.length)

/-- Why rows are refused: they have no cell, or else for the first of them that is not sound. The
first row says how long the rows should be. -/
inductive Refused (rows : List (List Value)) : RowsError → Prop
  | noCells (none : rows = [] ∨ rows.head? = some []) : Refused rows .noCells
  | row {before after : List (List Value)} {vs : List Value} {e : RowsError}
    (cells : 0 < (rows.headD []).length) (split : rows = before ++ vs :: after)
    (sound : ∀ us ∈ before, IsSound (rows.headD []).length us)
    (fault : RowFault (rows.headD []).length before.length vs e) : Refused rows e

end Grid

end Worksheet
