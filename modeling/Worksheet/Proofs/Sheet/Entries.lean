import Mathlib.Data.Set.Card
import Worksheet.Proofs.Range.Walk
import Worksheet.Sheet.Basic

/-! The entries of a sheet. They are its stored cells, each once and in address order, and their
number is the size of the sheet. As no stored row is without a cell, a sheet is empty when it has no
stored row. -/

namespace Worksheet

namespace Sheet

variable {s : Sheet} {a : Address} {c : Cell}

theorem get?_eq_some_iff :
    s.get? a = some c ↔ ∃ row, s.rows[a.row]? = some row ∧ row[a.col]? = some c :=
  Option.bind_eq_some_iff

theorem mem_entries_iff : (a, c) ∈ s.entries ↔ s.get? a = some c := by
  simp only [entries, List.mem_flatMap, List.mem_map, get?_eq_some_iff]
  constructor
  · rintro ⟨⟨r, row⟩, present, ⟨k, c'⟩, here, same⟩
    cases same
    exact ⟨row, Std.TreeMap.mem_toList_iff_getElem?_eq_some.1 present,
      Std.TreeMap.mem_toList_iff_getElem?_eq_some.1 here⟩
  · rintro ⟨row, present, here⟩
    exact ⟨(a.row, row), Std.TreeMap.mem_toList_iff_getElem?_eq_some.2 present, (a.col, c),
      Std.TreeMap.mem_toList_iff_getElem?_eq_some.2 here, rfl⟩

theorem entries_pairwise (s : Sheet) :
    s.entries.Pairwise fun p q => p.1.order q.1 = .lt := by
  rw [entries, List.pairwise_flatMap]
  constructor
  · rintro ⟨r, row⟩ -
    rw [List.pairwise_map]
    refine row.ordered_keys_toList.imp fun {p q} before => ?_
    exact Address.order_eq_lt_iff.2 (.inr ⟨rfl, Std.compare_eq_lt.1 before⟩)
  · refine s.rows.ordered_keys_toList.imp fun {p q} before => ?_
    intro x hx y hy
    obtain ⟨_, -, rfl⟩ := List.mem_map.1 hx
    obtain ⟨_, -, rfl⟩ := List.mem_map.1 hy
    exact Address.order_eq_lt_iff.2 (.inl (Std.compare_eq_lt.1 before))

theorem length_entries (s : Sheet) : s.entries.length = s.size := by
  have rows : s.size = (s.rows.toList.map fun p => p.2.size).sum := by
    rw [size, Std.TreeMap.foldl_eq_foldl_toList, List.sum_eq_foldl, List.foldl_map]
  rw [rows, entries, List.length_flatMap]
  refine congrArg List.sum (List.map_congr_left ?_)
  rintro ⟨r, row⟩ -
  rw [List.length_map, Std.TreeMap.length_toList]

theorem encard_held (s : Sheet) : {a | s.get? a ≠ none}.encard = s.size := by
  have nodup : (s.entries.map Prod.fst).Nodup := by
    rw [List.Nodup, List.pairwise_map]
    refine s.entries_pairwise.imp fun {p q} before same => ?_
    rw [same, Address.order_eq_lt_iff] at before
    simp at before
  have held : {a | s.get? a ≠ none} = ((s.entries.map Prod.fst).toFinset : Set Address) := by
    ext a
    rw [Set.mem_ofPred_eq, Option.ne_none_iff_exists', List.coe_toFinset, Set.mem_ofPred_eq]
    simp [mem_entries_iff]
  rw [held, Set.encard_coe_eq_coe_finsetCard, List.toFinset_card_of_nodup nodup, List.length_map,
    length_entries]

theorem isEmpty_iff : s.isEmpty = true ↔ ∀ a, s.get? a = none := by
  constructor
  · intro empty a
    rw [get?, Rows.cell?, Std.TreeMap.getElem?_of_isEmpty empty]
    rfl
  · intro none
    by_contra some
    -- A stored row has a cell, which would be found.
    obtain ⟨r, stored⟩ := Std.TreeMap.isEmpty_eq_false_iff_exists_mem.1 (Bool.eq_false_iff.2 some)
    have row := Std.TreeMap.getElem?_eq_some_getElem stored
    obtain ⟨k, here⟩ := Std.TreeMap.isEmpty_eq_false_iff_exists_mem.1 (s.tidy.row_nonempty row)
    have cell := Std.TreeMap.getElem?_eq_some_getElem here
    have found : s.get? ⟨r, k⟩ = _ := get?_eq_some_iff.2 ⟨_, row, cell⟩
    rw [none] at found
    cases found

end Sheet

end Worksheet
