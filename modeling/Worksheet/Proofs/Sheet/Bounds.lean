import Worksheet.Proofs.Sheet.Edits
import Worksheet.Proofs.Sheet.UsedRange

/-! The bounds of the stored cells. They are the range that contains every address at which a cell
is held and has one on each of its four sides; there is one at most, and no range that contains
these addresses is without an address of it. Main statement: after any edits the used range is the
bounds of what the edits leave. -/

namespace Worksheet

namespace Range

/-- The range contains every address that holds a cell, and has one in its first and in its last
row and column. -/
structure Bounds (range : Range) (held : Address → Option Cell) : Prop where
  covers : ∀ a, held a ≠ none → range.contains a = true
  top : ∃ a, held a ≠ none ∧ a.row = range.first.row
  bottom : ∃ a, held a ≠ none ∧ a.row = range.last.row
  left : ∃ a, held a ≠ none ∧ a.col = range.first.col
  right : ∃ a, held a ≠ none ∧ a.col = range.last.col

variable {range wider : Range} {held : Address → Option Cell} {a : Address}

theorem contains_first (range : Range) : range.contains range.first = true :=
  contains_iff_toNat.2 ⟨⟨Nat.le_refl _, UInt32.le_iff_toNat_le.1 range.row_le⟩, Nat.le_refl _,
    UInt16.le_iff_toNat_le.1 range.col_le⟩

theorem contains_last (range : Range) : range.contains range.last = true :=
  contains_iff_toNat.2 ⟨⟨UInt32.le_iff_toNat_le.1 range.row_le, Nat.le_refl _⟩,
    UInt16.le_iff_toNat_le.1 range.col_le, Nat.le_refl _⟩

theorem Bounds.within (bounds : range.Bounds held)
    (covers : ∀ a, held a ≠ none → wider.contains a = true) (inside : range.contains a = true) :
    wider.contains a = true := by
  obtain ⟨top, here, topRow⟩ := bounds.top
  have above := contains_iff_toNat.1 (covers top here)
  obtain ⟨bottom, here, bottomRow⟩ := bounds.bottom
  have below := contains_iff_toNat.1 (covers bottom here)
  obtain ⟨left, here, leftCol⟩ := bounds.left
  have before := contains_iff_toNat.1 (covers left here)
  obtain ⟨right, here, rightCol⟩ := bounds.right
  have behind := contains_iff_toNat.1 (covers right here)
  rw [topRow] at above
  rw [bottomRow] at below
  rw [leftCol] at before
  rw [rightCol] at behind
  rw [contains_iff_toNat] at inside ⊢
  omega

theorem Bounds.unique {range' : Range} (bounds : range.Bounds held)
    (bounds' : range'.Bounds held) : range = range' := by
  have first := contains_iff_toNat.1 (bounds.within bounds'.covers range.contains_first)
  have last := contains_iff_toNat.1 (bounds.within bounds'.covers range.contains_last)
  have first' := contains_iff_toNat.1 (bounds'.within bounds.covers range'.contains_first)
  have last' := contains_iff_toNat.1 (bounds'.within bounds.covers range'.contains_last)
  have firsts : range.first = range'.first := Address.ext_toNat (by omega) (by omega)
  have lasts : range.last = range'.last := Address.ext_toNat (by omega) (by omega)
  cases range
  cases range'
  simp only [mk.injEq]
  exact ⟨firsts, lasts⟩

end Range

namespace Sheet

variable {s : Sheet} {range : Range} {r : UInt32} {k : UInt16} {row : Row}

theorem get?_ne_none_of_mem (stored : s.rows[r]? = some row) (h : k ∈ row) :
    s.get? ⟨r, k⟩ ≠ none := by
  have cell := Std.TreeMap.getElem?_eq_some_getElem h
  rw [get?_eq_some_iff.2 ⟨row, stored, cell⟩]
  exact Option.some_ne_none _

theorem exists_cell_of_mem (h : r ∈ s.rows) : ∃ a, s.get? a ≠ none ∧ a.row = r := by
  have stored := Std.TreeMap.getElem?_eq_some_getElem h
  obtain ⟨k, mem⟩ := Std.TreeMap.isEmpty_eq_false_iff_exists_mem.1 (s.tidy.row_nonempty stored)
  exact ⟨⟨r, k⟩, get?_ne_none_of_mem stored mem, rfl⟩

theorem bounds_of_usedRange (used : s.usedRange = some range) : range.Bounds s.get? := by
  have covers : ∀ a, s.get? a ≠ none → range.contains a = true := by
    intro a held
    obtain ⟨c, here⟩ := Option.ne_none_iff_exists'.1 held
    exact contains_of_usedRange used here
  obtain ⟨top, bottom, first, last, rfl⟩ := usedRange_eq_some_iff.1 used
  obtain ⟨topMem, least⟩ := Std.TreeMap.minKey?_eq_some_iff_mem_and_forall.1 first
  obtain ⟨bottomMem, -⟩ := Std.TreeMap.maxKey?_eq_some_iff_mem_and_forall.1 last
  -- A cell of the topmost row lies between the outermost columns, so they are in order.
  have stored := Std.TreeMap.getElem?_eq_some_getElem topMem
  obtain ⟨k, mem⟩ := Std.TreeMap.isEmpty_eq_false_iff_exists_mem.1 (s.tidy.row_nonempty stored)
  have rows : top ≤ bottom := Std.isLE_compare.1 (least bottom bottomMem)
  have cols : s.rows.left ≤ s.rows.right :=
    UInt16.le_trans (Rows.left_le stored mem) (Rows.le_right stored mem)
  obtain ⟨r, row, storedLeft, memLeft⟩ := Rows.exists_left stored mem
  obtain ⟨r', row', storedRight, memRight⟩ := Rows.exists_right stored mem
  rw [Range.ofCorners_of_le rows cols] at covers ⊢
  exact
    { covers
      top := exists_cell_of_mem topMem
      bottom := exists_cell_of_mem bottomMem
      left := ⟨⟨r, _⟩, get?_ne_none_of_mem storedLeft memLeft, rfl⟩
      right := ⟨⟨r', _⟩, get?_ne_none_of_mem storedRight memRight, rfl⟩ }

theorem exists_usedRange_of_held {a : Address} (held : s.get? a ≠ none) :
    ∃ range, s.usedRange = some range :=
  exists_usedRange (Bool.eq_false_iff.2 fun empty => held (isEmpty_iff.1 empty a))

theorem usedRange_eq_some_iff_bounds : s.usedRange = some range ↔ range.Bounds s.get? := by
  constructor
  · exact bounds_of_usedRange
  · intro bounds
    obtain ⟨a, held, -⟩ := bounds.top
    obtain ⟨range', used⟩ := exists_usedRange_of_held held
    rw [used, (bounds_of_usedRange used).unique bounds]

theorem usedRange_eq_none_iff : s.usedRange = none ↔ ∀ a, s.get? a = none := by
  constructor
  · intro unused a
    by_contra held
    obtain ⟨range, used⟩ := exists_usedRange_of_held held
    rw [unused] at used
    cases used
  · intro none
    cases used : s.usedRange with
    | none => rfl
    | some range =>
      obtain ⟨a, held, -⟩ := (bounds_of_usedRange used).top
      exact absurd (none a) held

/-- After any edits of the empty sheet there is a used range unless the edits leave no cell. It is
the range that contains every address at which they leave one and has one on each of its sides, and
thus lies within every range that contains these addresses. -/
theorem usedRange_bounds (edits : List Edit) :
    let s := empty.edited edits
    let held := Edit.held edits
    (s.usedRange = none ↔ ∀ a, held a = none) ∧
    (∀ range, s.usedRange = some range ↔ range.Bounds held) ∧
    ∀ range wider : Range, s.usedRange = some range →
      (∀ a, held a ≠ none → wider.contains a = true) →
      ∀ a, range.contains a = true → wider.contains a = true := by
  intro s held
  have same : held = s.get? := funext fun a => (get?_edited_empty edits a).symm
  rw [same]
  exact ⟨usedRange_eq_none_iff, fun range => usedRange_eq_some_iff_bounds,
    fun range wider used covers a inside => (bounds_of_usedRange used).within covers inside⟩

/-- A cell in the last column and one in the first, after the topmost row with a cell in each was
removed again. The range of all later rows contains these cells, so it contains the bounds. -/
theorem usedRange_bounds_sides :
    let edits : List Edit := [.set ⟨2, 0⟩ (.logical true), .set ⟨2, 65535⟩ (.logical true),
      .set ⟨7, 65535⟩ (.text "x"), .set ⟨4294967295, 0⟩ (.text "y"), .remove ⟨2, 0⟩,
      .set ⟨2, 65535⟩ .blank]
    let range : Range := ⟨⟨7, 0⟩, ⟨4294967295, 65535⟩, by decide, by decide⟩
    let wider : Range := ⟨⟨3, 0⟩, ⟨4294967295, 65535⟩, by decide, by decide⟩
    (empty.edited edits).usedRange = some range ∧ range.Bounds (Edit.held edits) ∧
      ∀ a, range.contains a = true → wider.contains a = true := by
  intro edits range wider
  obtain ⟨-, bounded, within⟩ := usedRange_bounds edits
  have inside : ∀ e ∈ edits, Edit.held edits e.target ≠ none →
      range.contains e.target = true := by decide
  have bounds : range.Bounds (Edit.held edits) := {
    covers := fun a held => by
      obtain ⟨e, mem, rfl⟩ := Edit.exists_of_held held
      exact inside e mem held
    top := ⟨⟨7, 65535⟩, by decide, rfl⟩
    bottom := ⟨⟨4294967295, 0⟩, by decide, rfl⟩
    left := ⟨⟨4294967295, 0⟩, by decide, rfl⟩
    right := ⟨⟨7, 65535⟩, by decide, rfl⟩ }
  have used := (bounded range).2 bounds
  have reaches : wider.first.row.toNat ≤ range.first.row.toNat := by decide
  refine ⟨used, bounds, within range wider used fun a held => ?_⟩
  obtain ⟨⟨above, below⟩, cols⟩ := Range.contains_iff_toNat.1 (bounds.covers a held)
  exact Range.contains_iff_toNat.2 ⟨⟨Nat.le_trans reaches above, below⟩, cols⟩

end Sheet

end Worksheet
