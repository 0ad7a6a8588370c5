import Mathlib.Data.List.Basic
import Mathlib.Data.List.OfFn
import Worksheet.Value.Build

/-! Grids and rows of values. Rows make a grid when they form a rectangle of items with a cell, and
the grid then reads as the rows do, inside and outside. Main statement: the rows copied out of any
grid make a grid again, which reads like the one they were copied from. -/

namespace Worksheet

theorem getElem?_flatten_of_uniform {α : Type} {rows : List (List α)} {cols r c : Nat}
    (uniform : ∀ row ∈ rows, row.length = cols) (hc : c < cols) :
    rows.flatten[r * cols + c]? = rows[r]?.bind fun row => row[c]? := by
  induction rows generalizing r with
  | nil => rfl
  | cons row rows ih =>
    have length : row.length = cols := uniform row List.mem_cons_self
    rw [List.flatten_cons]
    cases r with
    | zero =>
      rw [Nat.zero_mul, Nat.zero_add, List.getElem?_append_left (by omega)]
      rfl
    | succ r =>
      have distance : (r + 1) * cols + c - row.length = r * cols + c := by
        rw [Nat.succ_mul]
        omega
      have beyond : row.length ≤ (r + 1) * cols + c := by
        rw [Nat.succ_mul]
        omega
      rw [List.getElem?_append_right beyond, distance, List.getElem?_cons_succ]
      exact ih fun row h => uniform row (List.mem_cons_of_mem _ h)

namespace Grid

variable {g : Grid} {rows : List (List Value)} {table : List (List Item)} {cols : Nat}

theorem itemsOfRow_eq_ok_iff {row col : Nat} {vs : List Value} {items : List Item} :
    itemsOfRow row col vs = .ok items ↔ vs = items.map .item := by
  induction vs generalizing col items with
  | nil => cases items <;> simp [itemsOfRow]
  | cons v vs ih =>
    rcases v with i | g
    · rw [itemsOfRow, map_eq_ok_iff]
      simp only [ih]
      cases items with
      | nil => simp
      | cons j rest =>
        simp only [List.map_cons, List.cons.injEq, Value.item.injEq]
        constructor
        · rintro ⟨rest', rfl, rfl, rfl⟩
          exact ⟨rfl, rfl⟩
        · rintro ⟨rfl, rfl⟩
          exact ⟨rest, rfl, rfl, rfl⟩
    · cases items <;> simp [itemsOfRow]

theorem itemsOfRows_map_item {row : Nat} (uniform : ∀ items ∈ table, items.length = cols) :
    itemsOfRows cols row (table.map (List.map .item)) = .ok table.flatten := by
  induction table generalizing row with
  | nil => rfl
  | cons items table ih =>
    have length : (items.map Value.item).length = cols := by
      rw [List.length_map]
      exact uniform items List.mem_cons_self
    have here : itemsOfRow row 0 (items.map .item) = .ok items := itemsOfRow_eq_ok_iff.2 rfl
    have below := @ih (row + 1) fun items h => uniform items (List.mem_cons_of_mem _ h)
    rw [List.map_cons, itemsOfRows, if_pos length, here, below]
    rfl

theorem exists_of_itemsOfRows {row : Nat} {items : List Item}
    (h : itemsOfRows cols row rows = .ok items) :
    ∃ table : List (List Item), rows = table.map (List.map .item) ∧
      ∀ items ∈ table, items.length = cols := by
  induction rows generalizing row items with
  | nil => exact ⟨[], rfl, by simp⟩
  | cons vs rest ih =>
    rw [itemsOfRows] at h
    split at h
    · rename_i length
      cases here : itemsOfRow row 0 vs with
      | error e => rw [here] at h; cases h
      | ok first =>
        cases below : itemsOfRows cols (row + 1) rest with
        | error e => rw [here, below] at h; cases h
        | ok others =>
          obtain ⟨table, rfl, uniform⟩ := ih below
          obtain rfl := itemsOfRow_eq_ok_iff.1 here
          refine ⟨first :: table, rfl, ?_⟩
          rw [List.forall_mem_cons]
          exact ⟨by simpa using length, uniform⟩
    · cases h

theorem get?_dense {rows cols : Nat} (hr : 0 < rows) (hc : 0 < cols)
    (items : Vector Item (rows * cols)) (r c : Nat) :
    (dense rows cols hr hc items).get? r c =
      if r < rows ∧ c < cols then items.toList[r * cols + c]? else none := by
  split
  · rename_i inside
    have lt := rowMajor_lt inside.1 inside.2
    rw [get?_eq_some_item _ inside.1 inside.2, List.getElem?_eq_getElem (by simpa using lt),
      Vector.getElem_toList]
    rfl
  · rename_i outside
    exact ((dense rows cols hr hc items).get?_eq_none_iff r c).2 outside

theorem entries_eq_ofFn (g : Grid) :
    g.entries = List.ofFn fun k : Fin (g.rows * g.cols) =>
      (k.val / g.cols, k.val % g.cols,
        g.item (k / g.cols) (k % g.cols) (rowOf_lt k.isLt) (Nat.mod_lt _ g.cols_pos)) := by
  rw [List.ofFn_mul, entries]
  congr 2
  funext r
  congr 1
  funext c
  simp only [rowOf_rowMajor c.isLt, colOf_rowMajor c.isLt]

theorem bind_getElem?_of_outside {α : Type} {table : List (List α)} {r c : Nat}
    (uniform : ∀ row ∈ table, row.length = cols) (h : ¬(r < table.length ∧ c < cols)) :
    (table[r]?.bind fun row => row[c]?) = none := by
  cases here : table[r]? with
  | none => rfl
  | some row =>
    obtain ⟨hr, rfl⟩ := List.getElem?_eq_some_iff.1 here
    have length := uniform _ (List.getElem_mem hr)
    exact List.getElem?_eq_none (by omega)

theorem ofRows_map_item (hr : 0 < table.length) (hc : 0 < cols)
    (uniform : ∀ items ∈ table, items.length = cols) :
    ∃ g, ofRows (table.map (List.map .item)) = .ok g ∧ g.extent = ⟨table.length, cols⟩ ∧
      ∀ r c, g.get? r c = table[r]?.bind fun items => items[c]? := by
  have head : ((table.map (List.map Value.item)).headD []).length = cols := by
    cases table with
    | nil => cases hr
    | cons items table => simpa using uniform items List.mem_cons_self
  have length : (table.map (List.map Value.item)).length = table.length := List.length_map _
  have made := @itemsOfRows_map_item table cols 0 uniform
  unfold ofRows
  rw [dif_pos ⟨by omega, by omega⟩]
  split
  · rename_i items h
    simp only [head] at h
    obtain rfl : table.flatten = items := Except.ok.inj (made.symm.trans h)
    refine ⟨_, rfl, by simp only [extent, Grid.rows, Grid.cols, length, head], fun r c => ?_⟩
    rw [get?_dense]
    simp only [length, head]
    split
    · rename_i inside
      exact getElem?_flatten_of_uniform uniform inside.2
    · rename_i outside
      exact (bind_getElem?_of_outside uniform outside).symm
  · rename_i e h
    rw [head, made] at h
    cases h

theorem exists_of_ofRows (h : ofRows rows = .ok g) :
    ∃ table : List (List Item), rows = table.map (List.map .item) ∧ 0 < table.length ∧
      0 < (rows.headD []).length ∧ ∀ items ∈ table, items.length = (rows.headD []).length := by
  unfold ofRows at h
  simp only at h
  split at h
  · rename_i pos
    split at h
    · rename_i items made
      obtain ⟨table, same, uniform⟩ := exists_of_itemsOfRows made
      have length : table.length = rows.length := by rw [same, List.length_map]
      exact ⟨table, same, length ▸ pos.1, pos.2, uniform⟩
    · cases h
  · cases h

theorem get?_of_ofRows (h : ofRows rows = .ok g) :
    g.extent = ⟨rows.length, (rows.headD []).length⟩ ∧
      ∀ r c, (g.get? r c).map Value.item = rows[r]?.bind fun vs => vs[c]? := by
  obtain ⟨table, same, hr, hc, uniform⟩ := exists_of_ofRows h
  obtain ⟨g', made, extent, reads⟩ := ofRows_map_item hr hc uniform
  rw [same, made] at h
  cases h
  have length : table.length = rows.length := by rw [same, List.length_map]
  refine ⟨length ▸ extent, fun r c => ?_⟩
  rw [reads, same, List.getElem?_map]
  cases table[r]? with
  | none => rfl
  | some items => exact (List.getElem?_map ..).symm

theorem ofRows_toRows (g : Grid) :
    ∃ copy, ofRows (g.toRows.map (List.map .item)) = .ok copy ∧ copy.extent = g.extent ∧
      ∀ r c, copy.get? r c = g.get? r c := by
  have length : g.toRows.length = g.rows := List.length_ofFn
  have uniform : ∀ items ∈ g.toRows, items.length = g.cols := by
    intro items h
    obtain ⟨r, rfl⟩ := List.mem_ofFn.1 h
    exact List.length_ofFn
  obtain ⟨copy, made, extent, reads⟩ := ofRows_map_item (length ▸ g.rows_pos) g.cols_pos uniform
  refine ⟨copy, made, extent.trans (by rw [length]; rfl), fun r c => ?_⟩
  rw [reads]
  by_cases inside : r < g.rows ∧ c < g.cols
  · rw [g.get?_eq_some_item inside.1 inside.2, toRows, List.getElem?_ofFn, dif_pos inside.1,
      Option.bind_some, List.getElem?_ofFn, dif_pos inside.2]
  · rw [(g.get?_eq_none_iff r c).2 inside]
    exact bind_getElem?_of_outside uniform (by rwa [length])

end Grid

end Worksheet
