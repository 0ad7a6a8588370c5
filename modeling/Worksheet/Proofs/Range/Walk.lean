import Mathlib.Data.List.Perm.Basic
import Worksheet.Address.Basic
import Worksheet.Proofs.Grid.Window
import Worksheet.Range

/-! Addresses in order, and the course of a walk through a range. An address comes before the
addresses of later rows and those further right in its row, and a set of addresses can be put in
order in one way. A place of the range is counted row by row, and after so many addresses the walk
is about to give the one at that place. It thus gives the addresses of all places and ends. They are
the addresses that the range contains, in order. -/

namespace Worksheet.Address

variable {a b : Address} {as bs : List Address}

theorem ext_toNat (row : a.row.toNat = b.row.toNat) (col : a.col.toNat = b.col.toNat) : a = b := by
  cases a
  cases b
  rw [UInt32.toNat_inj] at row
  rw [UInt16.toNat_inj] at col
  rw [Address.mk.injEq]
  exact ⟨row, col⟩

theorem order_eq_lt_iff :
    a.order b = .lt ↔ a.row < b.row ∨ a.row = b.row ∧ a.col < b.col := by
  simp only [order, compareLex, compareOn, Ordering.then_eq_lt, Std.compare_eq_lt,
    Std.LawfulEqCmp.compare_eq_iff_eq]

theorem order_eq_lt_iff_toNat :
    a.order b = .lt ↔
      a.row.toNat < b.row.toNat ∨ a.row.toNat = b.row.toNat ∧ a.col.toNat < b.col.toNat := by
  rw [order_eq_lt_iff, UInt32.lt_iff_toNat_lt, UInt16.lt_iff_toNat_lt, UInt32.toNat_inj]

theorem nodup_of_pairwise (h : as.Pairwise fun a b => a.order b = .lt) : as.Nodup := by
  refine h.imp fun {a b} before same => ?_
  rw [same, order_eq_lt_iff_toNat] at before
  omega

end Worksheet.Address

namespace Worksheet

namespace Range

variable {range : Range} {a : Address} {r c i j k : Nat}

/-- The address at a place of the range, counted row by row. -/
def place (range : Range) (k : Nat) : Address :=
  range.first.offset (k / range.colCount) (k % range.colCount)

theorem place_zero (range : Range) : range.place 0 = range.first := by
  rw [place, Nat.zero_div, Nat.zero_mod, Address.offset_zero]

theorem place_rowMajor (hc : c < range.colCount) :
    range.place (r * range.colCount + c) = range.first.offset r c := by
  rw [place, rowOf_rowMajor hc, colOf_rowMajor hc]

theorem exists_rowMajor (h : k < range.cellCount) :
    ∃ r c, r < range.rowCount ∧ c < range.colCount ∧ k = r * range.colCount + c :=
  ⟨k / range.colCount, k % range.colCount, rowOf_lt h, Nat.mod_lt _ range.colCount_pos,
    (Nat.div_add_mod' k _).symm⟩

theorem following_offset (hr : r < range.rowCount) (hc : c < range.colCount) :
    Walk.following range (range.first.offset r c) =
      if c + 1 < range.colCount then some (range.first.offset r (c + 1))
      else if r + 1 < range.rowCount then some (range.first.offset (r + 1) 0)
      else none := by
  have row := @row_offset range r c hr
  have col := @col_offset range r c hc
  have rows := UInt32.le_iff_toNat_le.1 range.row_le
  have cols := UInt16.le_iff_toNat_le.1 range.col_le
  have lastRow := range.last.row.toNat_lt
  have lastCol := range.last.col.toNat_lt
  have inRow : (range.first.offset r c).col < range.last.col ↔ c + 1 < range.colCount := by
    rw [UInt16.lt_iff_toNat_lt, col, colCount]
    omega
  have above : (range.first.offset r c).row < range.last.row ↔ r + 1 < range.rowCount := by
    rw [UInt32.lt_iff_toNat_lt, row, rowCount]
    omega
  simp only [Walk.following, inRow, above]
  split
  · rename_i more
    refine congrArg some (Address.ext_toNat (by rw [row, row_offset hr]) ?_)
    rw [col_offset more, UInt16.toNat_add, col]
    rw [colCount] at more
    change (range.first.col.toNat + c + 1) % 2 ^ 16 = _
    omega
  · split
    · rename_i more
      refine congrArg some (Address.ext_toNat ?_ (by rw [col_offset range.colCount_pos]; rfl))
      rw [row_offset more, UInt32.toNat_add, row]
      rw [rowCount] at more
      change (range.first.row.toNat + r + 1) % 2 ^ 32 = _
      omega
    · rfl

theorem following_place (h : k < range.cellCount) :
    Walk.following range (range.place k) =
      if k + 1 < range.cellCount then some (range.place (k + 1)) else none := by
  obtain ⟨r, c, hr, hc, rfl⟩ := exists_rowMajor h
  rw [place_rowMajor hc, following_offset hr hc]
  by_cases inRow : c + 1 < range.colCount
  · have more : r * range.colCount + c + 1 < range.cellCount := rowMajor_lt hr inRow
    rw [if_pos inRow, if_pos more, Nat.add_assoc, place_rowMajor inRow]
  · have next : r * range.colCount + c + 1 = (r + 1) * range.colCount + 0 := by
      rw [Nat.succ_mul]
      omega
    rw [if_neg inRow, next, place_rowMajor range.colCount_pos]
    refine if_congr ?_ rfl rfl
    simp only [cellCount, Nat.add_zero, Nat.mul_lt_mul_right range.colCount_pos]

def walkAt (range : Range) (k : Nat) : Walk :=
  ⟨range, if k < range.cellCount then some (range.place k) else none, range.cellCount - k⟩

theorem cellCount_pos (range : Range) : 0 < range.cellCount :=
  Nat.mul_pos range.rowCount_pos range.colCount_pos

theorem walkAt_zero (range : Range) : range.walkAt 0 = range.walk := by
  rw [walkAt, if_pos range.cellCount_pos, place_zero]
  rfl

theorem next_walkAt (h : k < range.cellCount) :
    (range.walkAt k).next = (some (range.place k), range.walkAt (k + 1)) := by
  simp only [walkAt, Walk.next, if_pos h, following_place h, Nat.sub_sub]

theorem next_walkAt_of_le (h : range.cellCount ≤ k) :
    (range.walkAt k).next = (none, range.walkAt k) := by
  simp only [walkAt, Walk.next, if_neg (Nat.not_lt.2 h)]

def addresses (range : Range) : List Address := (List.range range.cellCount).map range.place

theorem order_place (h : i < j) (hj : j < range.cellCount) :
    (range.place i).order (range.place j) = .lt := by
  obtain ⟨r, c, hr, hc, rfl⟩ := exists_rowMajor hj
  obtain ⟨r', c', hr', hc', rfl⟩ := exists_rowMajor (Nat.lt_trans h hj)
  have before := Grid.before_of_lt hc h
  rw [rowOf_rowMajor hc', colOf_rowMajor hc', Grid.Before] at before
  rw [place_rowMajor hc, place_rowMajor hc', Address.order_eq_lt_iff_toNat, row_offset hr,
    row_offset hr', col_offset hc, col_offset hc']
  omega

theorem addresses_pairwise (range : Range) :
    range.addresses.Pairwise fun a b => a.order b = .lt := by
  rw [addresses, List.pairwise_map]
  refine List.pairwise_lt_range.imp_of_mem fun {i j} _ hj lt => ?_
  exact order_place lt (List.mem_range.1 hj)

theorem mem_addresses_iff : a ∈ range.addresses ↔ range.contains a = true := by
  simp only [addresses, List.mem_map, List.mem_range]
  constructor
  · rintro ⟨k, hk, rfl⟩
    obtain ⟨r, c, hr, hc, rfl⟩ := exists_rowMajor hk
    rw [place_rowMajor hc]
    exact contains_offset hr hc
  · intro inside
    rw [contains_iff_toNat] at inside
    have hr : a.row.toNat - range.first.row.toNat < range.rowCount := by
      rw [rowCount]
      omega
    have hc : a.col.toNat - range.first.col.toNat < range.colCount := by
      rw [colCount]
      omega
    refine ⟨_, rowMajor_lt hr hc, ?_⟩
    rw [place_rowMajor hc]
    refine Address.ext_toNat ?_ ?_
    · rw [row_offset hr]
      omega
    · rw [col_offset hc]
      omega

end Range

end Worksheet
