import Worksheet.Proofs.Grid.Window
import Worksheet.Proofs.Sheet.Entries

/-! The used range of a sheet. A sheet that holds a cell has one, and every address at which it
holds a cell lies in the range. As no stored row is without a cell, its first and its last row hold
one, and so do its first and its last column, which some row has for its own. -/

namespace Worksheet

/-- A fold whose steps keep to one direction ends beyond where any of its members takes it. -/
theorem foldl_beyond {α β : Type} {R : α → α → Prop} (refl : ∀ a, R a a)
    (trans : ∀ {a b c}, R a b → R b c → R a c) {f : α → β → α} (step : ∀ a b, R (f a b) a)
    {b : β} {k : α} (reach : ∀ a, R (f a b) k) {l : List β} (h : b ∈ l) (a : α) :
    R (l.foldl f a) k := by
  have onward : ∀ (l : List β) (a : α), R (l.foldl f a) a := by
    intro l
    induction l with
    | nil => exact refl
    | cons b l ih => exact fun a => trans (ih (f a b)) (step a b)
  induction l generalizing a with
  | nil => cases h
  | cons b' l ih =>
    rcases List.mem_cons.1 h with rfl | h
    · exact trans (onward l (f a b)) (reach a)
    · exact ih h (f a b')

theorem foldl_attained {α β : Type} {P : β → α → Prop} {f : α → β → α}
    (step : ∀ a b, f a b = a ∨ P b (f a b)) (l : List β) (a : α) :
    l.foldl f a = a ∨ ∃ b ∈ l, P b (l.foldl f a) := by
  induction l generalizing a with
  | nil => exact .inl rfl
  | cons b l ih =>
    rw [List.foldl_cons]
    rcases ih (f a b) with stays | ⟨b', mem, here⟩
    · rw [stays]
      exact (step a b).imp id fun here => ⟨b, List.mem_cons_self, here⟩
    · exact .inr ⟨b', List.mem_cons_of_mem _ mem, here⟩

namespace Row

variable {row : Row} {k : UInt16}

theorem exists_minKey? (h : k ∈ row) : ∃ first, row.minKey? = some first ∧ first ≤ k := by
  obtain ⟨first, found⟩ := Option.isSome_iff_exists.1 (Std.TreeMap.isSome_minKey?_of_mem h)
  have least := (Std.TreeMap.minKey?_eq_some_iff_mem_and_forall.1 found).2 k h
  exact ⟨first, found, Std.isLE_compare.1 least⟩

theorem exists_maxKey? (h : k ∈ row) : ∃ last, row.maxKey? = some last ∧ k ≤ last := by
  obtain ⟨last, found⟩ := Option.isSome_iff_exists.1 (Std.TreeMap.isSome_maxKey?_of_mem h)
  have greatest := (Std.TreeMap.maxKey?_eq_some_iff_mem_and_forall.1 found).2 k h
  exact ⟨last, found, Std.isLE_compare.1 greatest⟩

def widenLeft (left : UInt16) (row : Row) : UInt16 := row.minKey?.elim left (min left)

def widenRight (right : UInt16) (row : Row) : UInt16 := row.maxKey?.elim right (max right)

theorem widenLeft_le (left : UInt16) (row : Row) : widenLeft left row ≤ left := by
  rw [widenLeft]
  cases row.minKey? with
  | none => exact UInt16.le_refl left
  | some first =>
    rw [Option.elim_some, UInt16.le_iff_toNat_le, UInt16.toNat_min]
    omega

theorem le_widenRight (right : UInt16) (row : Row) : right ≤ widenRight right row := by
  rw [widenRight]
  cases row.maxKey? with
  | none => exact UInt16.le_refl right
  | some last =>
    rw [Option.elim_some, UInt16.le_iff_toNat_le, UInt16.toNat_max]
    omega

theorem widenLeft_le_of_mem (h : k ∈ row) (left : UInt16) : widenLeft left row ≤ k := by
  obtain ⟨first, found, le⟩ := exists_minKey? h
  rw [UInt16.le_iff_toNat_le] at le
  rw [widenLeft, found, Option.elim_some, UInt16.le_iff_toNat_le, UInt16.toNat_min]
  omega

theorem le_widenRight_of_mem (h : k ∈ row) (right : UInt16) : k ≤ widenRight right row := by
  obtain ⟨last, found, le⟩ := exists_maxKey? h
  rw [UInt16.le_iff_toNat_le] at le
  rw [widenRight, found, Option.elim_some, UInt16.le_iff_toNat_le, UInt16.toNat_max]
  omega

theorem widenLeft_eq_or_mem (left : UInt16) (row : Row) :
    widenLeft left row = left ∨ widenLeft left row ∈ row := by
  rw [widenLeft]
  cases found : row.minKey? with
  | none => exact .inl rfl
  | some first =>
    by_cases le : left ≤ first
    · exact .inl (if_pos le)
    · refine .inr ?_
      rw [Option.elim_some, show min left first = first from if_neg le]
      exact (Std.TreeMap.minKey?_eq_some_iff_mem_and_forall.1 found).1

theorem widenRight_eq_or_mem (right : UInt16) (row : Row) :
    widenRight right row = right ∨ widenRight right row ∈ row := by
  rw [widenRight]
  cases found : row.maxKey? with
  | none => exact .inl rfl
  | some last =>
    by_cases le : right ≤ last
    · refine .inr ?_
      rw [Option.elim_some, show max right last = last from if_pos le]
      exact (Std.TreeMap.maxKey?_eq_some_iff_mem_and_forall.1 found).1
    · exact .inl (if_neg le)

end Row

namespace Rows

variable {rows : Rows} {row : Row} {r : UInt32} {k : UInt16}

def left (rows : Rows) : UInt16 := rows.foldl (fun left _ row => Row.widenLeft left row) 65535

def right (rows : Rows) : UInt16 := rows.foldl (fun right _ row => Row.widenRight right row) 0

theorem left_le (stored : rows[r]? = some row) (h : k ∈ row) : rows.left ≤ k := by
  rw [left, Std.TreeMap.foldl_eq_foldl_toList]
  exact foldl_beyond (R := (· ≤ ·)) UInt16.le_refl UInt16.le_trans
    (fun left p => Row.widenLeft_le left p.2) (Row.widenLeft_le_of_mem h)
    (Std.TreeMap.mem_toList_iff_getElem?_eq_some.2 stored) _

theorem le_right (stored : rows[r]? = some row) (h : k ∈ row) : k ≤ rows.right := by
  rw [right, Std.TreeMap.foldl_eq_foldl_toList]
  exact foldl_beyond (R := (· ≥ ·)) UInt16.le_refl (fun h h' => UInt16.le_trans h' h)
    (fun right p => Row.le_widenRight right p.2) (Row.le_widenRight_of_mem h)
    (Std.TreeMap.mem_toList_iff_getElem?_eq_some.2 stored) _

theorem exists_of_foldl {widen : UInt16 → Row → UInt16} {start : UInt16}
    (step : ∀ k row, widen k row = k ∨ widen k row ∈ row)
    (still : rows.foldl (fun k _ row => widen k row) start = start →
      ∃ (r : UInt32) (row : Row), rows[r]? = some row ∧ start ∈ row) :
    ∃ (r : UInt32) (row : Row), rows[r]? = some row ∧
      rows.foldl (fun k _ row => widen k row) start ∈ row := by
  rw [Std.TreeMap.foldl_eq_foldl_toList] at still ⊢
  rcases foldl_attained (P := fun p k => k ∈ p.2) (fun k p => step k p.2) rows.toList start with
    stays | ⟨p, mem, here⟩
  · rw [stays]
    exact still stays
  · exact ⟨p.1, p.2, Std.TreeMap.mem_toList_iff_getElem?_eq_some.1 mem, here⟩

theorem exists_left (stored : rows[r]? = some row) (h : k ∈ row) :
    ∃ (r : UInt32) (row : Row), rows[r]? = some row ∧ rows.left ∈ row := by
  refine exists_of_foldl Row.widenLeft_eq_or_mem fun still => ⟨r, row, stored, ?_⟩
  have before : rows.left ≤ k := left_le stored h
  rw [left, still, UInt16.le_iff_toNat_le] at before
  -- No column is behind the one that the search starts from, so the row ends there.
  have last : k = 65535 := by
    have lt := k.toNat_lt
    rw [← UInt16.toNat_inj]
    change 65535 ≤ k.toNat at before
    change k.toNat = 65535
    omega
  exact last ▸ h

theorem exists_right (stored : rows[r]? = some row) (h : k ∈ row) :
    ∃ (r : UInt32) (row : Row), rows[r]? = some row ∧ rows.right ∈ row := by
  refine exists_of_foldl Row.widenRight_eq_or_mem fun still => ⟨r, row, stored, ?_⟩
  have behind : k ≤ rows.right := le_right stored h
  rw [right, still, UInt16.le_iff_toNat_le] at behind
  -- No column is before the one that the search starts from, so the row begins there.
  have first : k = 0 := UInt16.toNat_inj.1 (Nat.le_zero.1 behind)
  exact first ▸ h

end Rows

namespace Sheet

variable {s : Sheet} {range : Range} {a : Address} {c : Cell}

theorem usedRange_eq_some_iff :
    s.usedRange = some range ↔ ∃ top bottom, s.rows.minKey? = some top ∧
      s.rows.maxKey? = some bottom ∧
      range = .ofCorners ⟨top, s.rows.left⟩ ⟨bottom, s.rows.right⟩ := by
  unfold usedRange
  split
  · rename_i top bottom first last
    rw [Option.some.injEq, first, last]
    constructor
    · rintro rfl
      exact ⟨top, bottom, rfl, rfl, rfl⟩
    · rintro ⟨_, _, ⟨rfl⟩, ⟨rfl⟩, rfl⟩
      rfl
  · rename_i absent
    constructor
    · intro h
      cases h
    · rintro ⟨top, bottom, first, last, -⟩
      exact absurd last (absent top bottom first)

theorem contains_of_usedRange (used : s.usedRange = some range) (held : s.get? a = some c) :
    range.contains a = true := by
  obtain ⟨top, bottom, first, last, rfl⟩ := usedRange_eq_some_iff.1 used
  obtain ⟨row, stored, here⟩ := get?_eq_some_iff.1 held
  have inRows : a.row ∈ s.rows :=
    Std.TreeMap.mem_iff_isSome_getElem?.2 (Option.isSome_of_eq_some stored)
  have inRow : a.col ∈ row := Std.TreeMap.mem_iff_isSome_getElem?.2 (Option.isSome_of_eq_some here)
  have above : top ≤ a.row :=
    Std.isLE_compare.1 ((Std.TreeMap.minKey?_eq_some_iff_mem_and_forall.1 first).2 _ inRows)
  have below : a.row ≤ bottom :=
    Std.isLE_compare.1 ((Std.TreeMap.maxKey?_eq_some_iff_mem_and_forall.1 last).2 _ inRows)
  have left := Rows.left_le stored inRow
  have right := Rows.le_right stored inRow
  simp only [UInt32.le_iff_toNat_le, UInt16.le_iff_toNat_le] at above below left right
  rw [Range.contains_iff_toNat]
  simp only [Range.ofCorners, UInt32.toNat_min, UInt16.toNat_min, UInt32.toNat_max,
    UInt16.toNat_max]
  omega

theorem exists_usedRange (h : s.isEmpty = false) : ∃ range, s.usedRange = some range := by
  have stored : s.rows.isEmpty = false := h
  have least : s.rows.minKey?.isSome = true := by
    rw [Std.TreeMap.isSome_minKey?_eq_not_isEmpty, stored]
    rfl
  have greatest : s.rows.maxKey?.isSome = true := by
    rw [Std.TreeMap.isSome_maxKey?_eq_not_isEmpty, stored]
    rfl
  obtain ⟨top, first⟩ := Option.isSome_iff_exists.1 least
  obtain ⟨bottom, last⟩ := Option.isSome_iff_exists.1 greatest
  exact ⟨_, usedRange_eq_some_iff.2 ⟨top, bottom, first, last, rfl⟩⟩

end Sheet

end Worksheet
