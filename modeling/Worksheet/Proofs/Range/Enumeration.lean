import Mathlib.Data.Set.Card
import Worksheet.Proofs.Range.Walk

/-! Walks to the end of a range and beyond. The call of each number gives the address at the place
of that number, the count of what is left goes down with it to zero, and all later calls give
nothing. Main statement: the addresses of the range are given once each and in order, and on the way
no count and no coordinate leaves its machine word. -/

namespace Worksheet.Range

variable {range : Range} {a : Address} {j k : Nat}

namespace Walk

def after (w : Walk) : Nat → Walk
  | 0 => w
  | k + 1 => (w.after k).next.2

/-- The next call takes nothing from a count of zero and adds nothing to the last row or column of
all, and the count fits into a word. -/
structure InWords (w : Walk) : Prop where
  counted : ∀ a, w.upcoming = some a → 0 < w.remaining
  fits : w.remaining < UInt64.size
  right : ∀ a, w.upcoming = some a → a.col < w.range.last.col →
    (a.col + 1).toNat = a.col.toNat + 1
  down : ∀ a, w.upcoming = some a → a.row < w.range.last.row →
    (a.row + 1).toNat = a.row.toNat + 1

end Walk

theorem walkAt_of_le (h : range.cellCount ≤ k) : range.walkAt k = ⟨range, none, 0⟩ := by
  rw [walkAt, if_neg (Nat.not_lt.2 h), Nat.sub_eq_zero_of_le h]

theorem after_walk (range : Range) (k : Nat) : range.walk.after k = range.walkAt k := by
  induction k with
  | zero => exact range.walkAt_zero.symm
  | succ k ih =>
    rw [Walk.after, ih]
    by_cases more : k < range.cellCount
    · rw [next_walkAt more]
    · have ended := Nat.not_lt.1 more
      rw [next_walkAt_of_le ended, walkAt_of_le ended, walkAt_of_le (Nat.le_succ_of_le ended)]

theorem given_iff :
    (range.walk.after k).next.1 = some a ↔ k < range.cellCount ∧ range.place k = a := by
  rw [after_walk]
  by_cases more : k < range.cellCount
  · simp only [next_walkAt more, Option.some.injEq, more, true_and]
  · simp only [next_walkAt_of_le (Nat.not_lt.1 more), reduceCtorEq, more, false_and]

theorem row_place (h : k < range.cellCount) :
    (range.place k).row.toNat = range.first.row.toNat + k / range.colCount :=
  row_offset (rowOf_lt h)

theorem col_place (range : Range) (k : Nat) :
    (range.place k).col.toNat = range.first.col.toNat + k % range.colCount :=
  col_offset (Nat.mod_lt k range.colCount_pos)

theorem place_inj (hj : j < range.cellCount) (hk : k < range.cellCount)
    (same : range.place j = range.place k) : j = k := by
  have row := row_place hj
  have col := range.col_place j
  rw [same, row_place hk] at row
  rw [same, col_place] at col
  rw [← Nat.div_add_mod j range.colCount, ← Nat.div_add_mod k range.colCount,
    Nat.add_left_cancel row, Nat.add_left_cancel col]

theorem encard_contains (range : Range) :
    {a | range.contains a = true}.encard = range.cellCount := by
  have held : {a | range.contains a = true} = (range.addresses.toFinset : Set Address) := by
    ext a
    rw [Set.mem_ofPred_eq, List.coe_toFinset, Set.mem_ofPred_eq, mem_addresses_iff]
  rw [held, Set.encard_coe_eq_coe_finsetCard,
    List.toFinset_card_of_nodup (Address.nodup_of_pairwise range.addresses_pairwise), addresses,
    List.length_map, List.length_range]

theorem rowCount_le (range : Range) : range.rowCount ≤ UInt32.size := by
  have last := range.last.row.toNat_lt
  rw [rowCount, UInt32.size]
  omega

theorem colCount_le (range : Range) : range.colCount ≤ UInt16.size := by
  have last := range.last.col.toNat_lt
  rw [colCount, UInt16.size]
  omega

theorem cellCount_le (range : Range) : range.cellCount ≤ UInt32.size * UInt16.size :=
  Nat.mul_le_mul range.rowCount_le range.colCount_le

theorem cellCount_lt (range : Range) : range.cellCount < UInt64.size :=
  Nat.lt_of_le_of_lt range.cellCount_le (by decide)

theorem walkAt_inWords (range : Range) (k : Nat) : (range.walkAt k).InWords where
  counted a upcoming := by
    by_cases more : k < range.cellCount
    · exact Nat.sub_pos_of_lt more
    · rw [walkAt_of_le (Nat.not_lt.1 more)] at upcoming
      cases upcoming
  fits := Nat.lt_of_le_of_lt (Nat.sub_le _ _) range.cellCount_lt
  right a _ before := by
    have lt : a.col.toNat < range.last.col.toNat := UInt16.lt_iff_toNat_lt.1 before
    have last := range.last.col.toNat_lt
    rw [UInt16.toNat_add, UInt16.toNat_one]
    omega
  down a _ before := by
    have lt : a.row.toNat < range.last.row.toNat := UInt32.lt_iff_toNat_lt.1 before
    have last := range.last.row.toNat_lt
    rw [UInt32.toNat_add, UInt32.toNat_one]
    omega

/-- A walk counts down from the number of cells of its range, and gives addresses until it is zero:
at each call the one so many places after the first, row by row. Each address of the range is given
by exactly one call, those of earlier calls come first in the order of addresses, and their number
is that of the cells. No call leaves the machine words. -/
theorem walk_enumerates (range : Range) :
    (∀ k, (range.walk.after k).remaining = range.cellCount - k) ∧
    (∀ k, k < range.cellCount → ∃ a, (range.walk.after k).next.1 = some a ∧
      a.row.toNat = range.first.row.toNat + k / range.colCount ∧
      a.col.toNat = range.first.col.toNat + k % range.colCount) ∧
    (∀ k, range.cellCount ≤ k → (range.walk.after k).next.1 = none) ∧
    (∀ a, range.contains a = true ↔ ∃! k, (range.walk.after k).next.1 = some a) ∧
    (∀ j k a b, j < k → (range.walk.after j).next.1 = some a →
      (range.walk.after k).next.1 = some b → a.order b = .lt) ∧
    {a | range.contains a = true}.encard = range.cellCount ∧
    ∀ k, (range.walk.after k).InWords := by
  refine ⟨fun k => ?_, fun k more => ?_, fun k ended => ?_, fun a => ?_, fun j k a b lt ha hb => ?_,
    range.encard_contains, fun k => ?_⟩
  · rw [after_walk]
    rfl
  · exact ⟨range.place k, given_iff.2 ⟨more, rfl⟩, row_place more, range.col_place k⟩
  · rw [after_walk, next_walkAt_of_le ended]
  · simp only [← mem_addresses_iff, addresses, List.mem_map, List.mem_range, given_iff]
    constructor
    · rintro ⟨k, more, here⟩
      refine ⟨k, ⟨more, here⟩, ?_⟩
      rintro j ⟨within, same⟩
      exact place_inj within more (same.trans here.symm)
    · rintro ⟨k, given, -⟩
      exact ⟨k, given⟩
  · obtain ⟨-, rfl⟩ := given_iff.1 ha
    obtain ⟨more, rfl⟩ := given_iff.1 hb
    exact order_place lt more
  · rw [after_walk]
    exact range.walkAt_inWords k

theorem walk_enumerates_all :
    let all : Range := ⟨⟨0, 0⟩, ⟨4294967295, 65535⟩, by decide, by decide⟩
    (∃ a b, (all.walk.after 281474976710654).next.1 = some a ∧
      (all.walk.after 281474976710655).next.1 = some b ∧ b.row.toNat = 4294967295 ∧
      b.col.toNat = 65535 ∧ a.order b = .lt) ∧
    (all.walk.after 281474976710655).remaining = 1 ∧
    (all.walk.after 281474976710656).next.1 = none ∧
    {a | all.contains a = true}.encard = (281474976710656 : Nat) := by
  intro all
  obtain ⟨counts, gives, ends, -, ordered, size, -⟩ := walk_enumerates all
  obtain ⟨a, before, -⟩ := gives 281474976710654 (by decide)
  obtain ⟨b, last, row, col⟩ := gives 281474976710655 (by decide)
  have cells : all.cellCount = 281474976710656 := by decide
  refine ⟨⟨a, b, before, last, row.trans (by decide), col.trans (by decide),
    ordered _ _ a b (by decide) before last⟩, ?_, ends _ (by decide), ?_⟩
  · rw [counts, cells]
  · rw [size, cells]

end Worksheet.Range
