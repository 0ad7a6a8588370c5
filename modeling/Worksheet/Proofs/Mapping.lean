import Worksheet.Proofs.Grid.Block
import Worksheet.Proofs.Range.Enumeration

/-! Mapping a rule over grids and values. A grid is mapped place by place into one that holds its
items, whatever the first one was, and of a grid that the rule gives only the first item is kept.
Main statement: what mapping makes, and that it keeps identities and composites. -/

namespace Worksheet

namespace Grid

variable (g : Grid) (f h : Item → Nat → Nat → Value)

theorem block_map :
    (g.map f).block =
      .held g.rows g.cols (g.entries.map fun (r, c, i) => .item (f i r c).toItem) := by
  rw [entries_eq_ofFn, List.map_ofFn]
  change Block.held g.rows g.cols (List.map .item (Vector.ofFn _).toList) = _
  rw [Vector.toList_ofFn, List.map_ofFn]
  rfl

/-- Mapping makes the grid of the answers to the items, where there is room for it. -/
theorem make_eq_map {room : Nat} (few : g.extent.isWithin room = true) :
    (make room g.extent fun r c => (g.get r c).map fun i => f i r c) = .ok (g.map f) := by
  have answers : ∀ r c, r < g.rows → c < g.cols →
      (g.get r c).map (fun i => f i r c) = .ok (((g.get? r c).map (f · r c)).getD .blank) := by
    intro r c hr hc
    rw [(g.get_eq_ok_iff r c _).2 (g.get?_eq_some_item hr hc), g.get?_eq_some_item hr hc]
    rfl
  rw [make_of_isWithin few, build_eq_tabulate g.rows_pos g.cols_pos answers]
  change Except.ok (dense g.rows g.cols _ _ (Vector.ofFn _)) =
    .ok (dense g.rows g.cols _ _ (Vector.ofFn _))
  congr 3
  funext k
  have here := g.get?_eq_some_item (rowOf_lt k.isLt) (Nat.mod_lt k g.cols_pos)
  exact congrArg (fun x : Option Item =>
    ((x.map fun i => f i (k / g.cols) (k % g.cols)).getD .blank).toItem) here

theorem isWithin_window (source : Source) (range : Range) :
    (window source range).extent.isWithin capacity = true :=
  Extent.isWithin_iff.2 ⟨range.cellCount_lt, Nat.le_trans range.cellCount_le (by decide)⟩

theorem get_map_eq_ok_iff {r c : Nat} {j : Item} :
    (g.map f).get r c = .ok j ↔ ∃ i, g.get r c = .ok i ∧ (f i r c).Keeps j := by
  simp only [get_eq_ok_iff, get?_map, Option.map_eq_some_iff, Value.keeps_iff]

theorem get?_map_item (r c : Nat) : (g.map fun i _ _ => .item i).get? r c = g.get? r c := by
  rw [get?_map]
  exact congrFun Option.map_id _

theorem map_map : (g.map h).map f = g.map fun i r c => f (h i r c).toItem r c := by
  change Grid.dense g.rows g.cols _ _ (Vector.ofFn _) = Grid.dense g.rows g.cols _ _ (Vector.ofFn _)
  congr 2
  funext k
  have here := g.item_map h (rowOf_lt k.isLt) (Nat.mod_lt k g.cols_pos)
  exact congrArg (fun i => (f i (k / g.cols) (k % g.cols)).toItem) here

end Grid

theorem Value.map_map {v : Value} {f h : Item → Nat → Nat → Value}
    (items : ∀ i r c, (h i r c).isGrid = false) :
    (v.map h).map f = v.map fun i r c => f (h i r c).toItem r c := by
  rcases v with i | g
  · change (h i 0 0).map f = f (h i 0 0).toItem 0 0
    have lone := items i 0 0
    generalize h i 0 0 = v at lone ⊢
    rcases v with j | g
    · rfl
    · cases lone
  · exact congrArg Value.grid (g.map_map f h)

/-- A mapped grid holds its items itself, one for each item of the grid it comes from, at the same
place and in the same order: what is kept of the answer of the rule there. Mapping with the rule
that answers with the item itself changes no item. Mapping twice is mapping once with a rule that
keeps of the first answer what a grid keeps of it. So it is for every value when the first rule
never answers with a grid; a lone item is given to the rule as the one at the first place, and the
answer is left as it is. -/
theorem map_laws :
    (∀ (g : Grid) (f : Item → Nat → Nat → Value),
      (g.map f).block =
        .held g.rows g.cols (g.entries.map fun (r, c, i) => .item (f i r c).toItem) ∧
      (g.map f).extent = g.extent ∧
      ∀ r c j, (g.map f).get r c = .ok j ↔ ∃ i, g.get r c = .ok i ∧ (f i r c).Keeps j) ∧
    (∀ g : Grid, (g.map fun i _ _ => .item i).extent = g.extent ∧
      ∀ r c, (g.map fun i _ _ => .item i).get? r c = g.get? r c) ∧
    (∀ (g : Grid) (f h : Item → Nat → Nat → Value),
      (g.map h).map f = g.map fun i r c => f (h i r c).toItem r c) ∧
    (∀ (v : Value) (f h : Item → Nat → Nat → Value), (∀ i r c, (h i r c).isGrid = false) →
      (v.map h).map f = v.map fun i r c => f (h i r c).toItem r c) ∧
    ∀ (i : Item) (f : Item → Nat → Nat → Value), (Value.item i).map f = f i 0 0 := by
  refine ⟨fun g f => ⟨g.block_map f, g.extent_map f, fun r c j => g.get_map_eq_ok_iff f⟩,
    fun g => ⟨g.extent_map _, g.get?_map_item⟩, fun g f h => g.map_map f h,
    fun v f h items => Value.map_map items, fun i f => rfl⟩

/-- A window of two cells is mapped to captions, and each caption beside its number. Of these pairs
only the captions are kept, and a lone item becomes the pair. -/
theorem map_laws_captions :
    let source : Source := fun a => some (.logical (a.col = 2))
    let pair : Value := .ofRange source ⟨⟨4, 1⟩, ⟨4, 2⟩, by decide, by decide⟩
    let composite i r c := Place.Rule.pair.apply (Place.Rule.caption.apply i r c).toItem r c
    (pair.map Place.Rule.caption.apply).map Place.Rule.pair.apply = pair.map composite ∧
      (Value.text "x").map composite =
        .grid (Place.beside (.scalar (.text "x@0,0")) (.scalar (.number (Place.index 0 0)))) ∧
      ∃ g : Grid, pair.map composite = .grid g ∧ g.get 0 1 = .ok (.scalar (.text "TRUE@0,1")) := by
  intro source pair composite
  obtain ⟨maps, -, -, twice, lone⟩ := map_laws
  refine ⟨twice _ _ _ fun i r c => rfl, (lone _ _).trans rfl, _, rfl, ?_⟩
  exact ((maps _ composite).2.2 0 1 _).2 ⟨_, rfl, .first rfl⟩

example : (Value.blank.map fun i _ _ => .grid (Place.beside i i)).map (fun i _ _ => .item i) ≠
    Value.blank.map fun i _ _ => .item (Value.grid (Place.beside i i)).toItem := nofun

end Worksheet
