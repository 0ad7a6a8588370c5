import Worksheet.Address.Basic

/-! Rectangular ranges of cells, given by their first and last address. The first is at or above and
left of the last, whatever corners a range was made from, so a range has at least one row and one
column. It is written `A1:B2`, and as a lone address when it has one cell. A walk goes through its
cells row by row and each row from left to right, and it knows the address it is about to give and
how many addresses are left. -/

namespace Worksheet

structure Range where
  first : Address
  last : Address
  row_le : first.row ≤ last.row
  col_le : first.col ≤ last.col
deriving DecidableEq

namespace Range

def single (a : Address) : Range := ⟨a, a, UInt32.le_refl _, UInt16.le_refl _⟩

def ofCorners (a b : Address) : Range where
  first := ⟨min a.row b.row, min a.col b.col⟩
  last := ⟨max a.row b.row, max a.col b.col⟩
  row_le := by simp only [min, max]; split <;> simp_all [UInt32.le_iff_toNat_le]; omega
  col_le := by simp only [min, max]; split <;> simp_all [UInt16.le_iff_toNat_le]; omega

def rowCount (r : Range) : Nat := r.last.row.toNat - r.first.row.toNat + 1

def colCount (r : Range) : Nat := r.last.col.toNat - r.first.col.toNat + 1

def cellCount (r : Range) : Nat := r.rowCount * r.colCount

def contains (r : Range) (a : Address) : Bool :=
  r.first.row ≤ a.row && a.row ≤ r.last.row && (r.first.col ≤ a.col && a.col ≤ r.last.col)

def text (r : Range) : String :=
  if r.first = r.last then r.first.text else r.first.text ++ ":" ++ r.last.text

def parse (s : String) : Except AddressError Range :=
  let body := Text.strip s.toList
  if ':' ∈ body then do
    let a ← Address.parse (String.ofList (body.takeWhile (· ≠ ':')))
    let b ← Address.parse (String.ofList (body.dropWhile (· ≠ ':')).tail)
    return ofCorners a b
  else do
    let a ← Address.parse s
    return single a

theorem rowCount_pos (r : Range) : 0 < r.rowCount := Nat.succ_pos _

theorem colCount_pos (r : Range) : 0 < r.colCount := Nat.succ_pos _

structure Walk where
  range : Range
  upcoming : Option Address
  remaining : Nat

namespace Walk

def following (r : Range) (a : Address) : Option Address :=
  if a.col < r.last.col then some ⟨a.row, a.col + 1⟩
  else if a.row < r.last.row then some ⟨a.row + 1, r.first.col⟩
  else none

/-- Gives the upcoming address and moves on; at the end it gives nothing and stays. -/
def next (w : Walk) : Option Address × Walk :=
  match w.upcoming with
  | none => (none, w)
  | some a => (some a, { w with upcoming := following w.range a, remaining := w.remaining - 1 })

end Walk

def walk (r : Range) : Walk := ⟨r, some r.first, r.cellCount⟩

end Range

end Worksheet
