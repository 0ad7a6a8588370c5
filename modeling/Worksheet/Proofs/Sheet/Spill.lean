import Worksheet.Proofs.Grid.Window
import Worksheet.Proofs.Sheet.Edits
import Worksheet.Sheet.Basic

/-! Grids stored in a sheet. The items of a grid have an address each, so it does not matter in
which order they are stored. Main statement: a window on the addresses reads the grid back, but for
the notes of its failures; a blank item leaves no cell, and the other addresses hold what they held.
-/

namespace Worksheet

def Item.withoutNote : Item → Item
  | .scalar s => .scalar s
  | .failure e => .fault e.fault

namespace Grid

variable {g : Grid}

theorem mem_entries_iff {r c : Nat} {i : Item} : (r, c, i) ∈ g.entries ↔ g.get? r c = some i := by
  simp only [entries, List.mem_flatten, List.mem_ofFn]
  constructor
  · rintro ⟨_, ⟨r', rfl⟩, here⟩
    obtain ⟨c', same⟩ := List.mem_ofFn.1 here
    cases same
    exact g.get?_eq_some_item r'.isLt c'.isLt
  · intro here
    obtain ⟨hr, hc⟩ := (g.exists_get?_iff r c).1 ⟨i, here⟩
    rw [g.get?_eq_some_item hr hc] at here
    exact ⟨_, ⟨⟨r, hr⟩, rfl⟩, List.mem_ofFn.2 ⟨⟨c, hc⟩, by simp only [Option.some.inj here]⟩⟩

end Grid

namespace Sheet

def placing (a : Address) : Nat × Nat × Item → Edit
  | (r, c, i) => .set (a.offset r c) i.toCell

theorem place_eq_edited (s : Sheet) (a : Address) (items : List (Nat × Nat × Item)) :
    s.place a items = s.edited (items.map (placing a)) := by
  rw [edited, List.foldl_map]
  rfl

theorem ofCell?_placing (a : Address) (r c : Nat) (i : Item) :
    Item.ofCell? (placing a (r, c, i)).left = i.withoutNote := by
  rcases i with (_ | _ | _ | _) | _ <;> rfl

section Place

variable {s : Sheet} {g : Grid} {range : Range} {items : List (Nat × Nat × Item)}

theorem get?_place_offset (rows : g.rows = range.rowCount) (cols : g.cols = range.colCount)
    (each : ∀ r c i, (r, c, i) ∈ items ↔ g.get? r c = some i) {r c : Nat} {i : Item}
    (here : g.get? r c = some i) :
    (s.place range.first items).get? (range.first.offset r c) =
      (placing range.first (r, c, i)).left := by
  obtain ⟨hr, hc⟩ := (g.exists_get?_iff r c).1 ⟨i, here⟩
  rw [place_eq_edited]
  refine get?_edited_of_agree ⟨_, List.mem_map_of_mem ((each r c i).2 here), rfl⟩ ?_
  intro e he target
  obtain ⟨⟨r', c', i'⟩, mem, rfl⟩ := List.mem_map.1 he
  have here' := (each r' c' i').1 mem
  obtain ⟨hr', hc'⟩ := (g.exists_get?_iff r' c').1 ⟨i', here'⟩
  obtain ⟨rfl, rfl⟩ := Range.offset_inj (rows ▸ hr') (cols ▸ hc') (rows ▸ hr) (cols ▸ hc) target
  rw [Option.some.inj (here'.symm.trans here)]

theorem get?_place_of_outside (rows : g.rows = range.rowCount) (cols : g.cols = range.colCount)
    (each : ∀ r c i, (r, c, i) ∈ items ↔ g.get? r c = some i) {a : Address}
    (outside : range.contains a = false) : (s.place range.first items).get? a = s.get? a := by
  rw [place_eq_edited]
  refine get?_edited_of_ne fun e he target => ?_
  obtain ⟨⟨r, c, i⟩, mem, rfl⟩ := List.mem_map.1 he
  obtain ⟨hr, hc⟩ := (g.exists_get?_iff r c).1 ⟨i, (each r c i).1 mem⟩
  have inside := Range.contains_offset (rows ▸ hr) (cols ▸ hc)
  rw [show range.first.offset r c = a from target, outside] at inside
  cases inside

end Place

/-- Storing the items of a grid from an address on, in any order, and reading the addresses back
gives the grid without the notes of its failures. Blank items leave no cell, and nothing changes at
the other addresses. -/
theorem window_place (s : Sheet) (g : Grid) (origin : Address) (items : List (Nat × Nat × Item))
    (each : ∀ r c i, (r, c, i) ∈ items ↔ g.get? r c = some i)
    (row : origin.row.toNat + g.rows ≤ UInt32.size)
    (col : origin.col.toNat + g.cols ≤ UInt16.size) :
    let stored := s.place origin items
    let range := Range.ofCorners origin (origin.offset (g.rows - 1) (g.cols - 1))
    (Grid.window stored.get? range).extent = g.extent ∧
    (∀ r c, (Grid.window stored.get? range).get? r c = (g.get? r c).map Item.withoutNote) ∧
    (∀ r c, g.get? r c = some .blank → stored.get? (origin.offset r c) = none) ∧
    ∀ a, range.contains a = false → stored.get? a = s.get? a := by
  intro stored range
  obtain ⟨first, rows, cols⟩ := Range.ofCorners_offset g.rows_pos g.cols_pos row col
  change range.first = origin at first
  have placed : ∀ {r c i}, g.get? r c = some i →
      stored.get? (origin.offset r c) = (placing origin (r, c, i)).left := by
    intro r c i here
    have := get?_place_offset (s := s) rows.symm cols.symm each here
    rwa [first] at this
  refine ⟨?_, fun r c => ?_, fun r c here => placed here, fun a outside => ?_⟩
  · exact congrArg₂ Extent.mk rows cols
  · cases here : g.get? r c with
    | none =>
      have outside := (g.get?_eq_none_iff r c).1 here
      rw [← rows, ← cols] at outside
      exact (Grid.get?_eq_none_iff _ r c).2 outside
    | some i =>
      obtain ⟨hr, hc⟩ := (g.exists_get?_iff r c).1 ⟨i, here⟩
      rw [← rows] at hr
      rw [← cols] at hc
      rw [Grid.get?_window hr hc, first, placed here, ofCell?_placing]
      rfl
  · have := get?_place_of_outside (s := s) rows.symm cols.symm each outside
    rwa [first] at this

theorem window_place_lastRow :
    let g := Place.beside (.failure ⟨.ref, some "moved"⟩) .blank
    let s := empty.edited [.set ⟨4294967295, 65535⟩ (.text "old"), .set ⟨7, 7⟩ (.logical true)]
    let stored := s.place ⟨4294967295, 65534⟩ g.entries.reverse
    let range := Range.ofCorners ⟨4294967295, 65534⟩ ⟨4294967295, 65535⟩
    (Grid.window stored.get? range).extent = ⟨1, 2⟩ ∧
      (Grid.window stored.get? range).get? 0 0 = some (.fault .ref) ∧
      s.get? ⟨4294967295, 65535⟩ = some (.text "old") ∧
      stored.get? ⟨4294967295, 65535⟩ = none ∧
      stored.get? ⟨7, 7⟩ = s.get? ⟨7, 7⟩ := by
  intro g s stored range
  obtain ⟨extent, reads, blank, outside⟩ := window_place s g ⟨4294967295, 65534⟩ g.entries.reverse
    (fun r c i => List.mem_reverse.trans Grid.mem_entries_iff) (by decide) (by decide)
  exact ⟨extent, reads 0 0, rfl, blank 0 1 rfl, outside ⟨7, 7⟩ (by decide)⟩

end Sheet

end Worksheet
