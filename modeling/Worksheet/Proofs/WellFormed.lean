import Worksheet.Function.Generic
import Worksheet.Proofs.Answer
import Worksheet.Proofs.Grid.Block

/-! However a grid is made, it is stored as a well-formed block. Rows are refused unless they are a
rectangle of items, and where a rule gives a grid for a cell, the grid gives way to its first item,
so that no cell is a grid. Main statement: when each maker of grids makes one and what it then
holds, what calls may answer with, and how grids are read. -/

namespace Worksheet

/-- The grid is stored as a well-formed block, whose cells are the items that the rule gives at the
places of the extent. -/
structure Grid.Holds (g : Grid) (e : Extent) (cell : Nat → Nat → Item) : Prop where
  wellFormed : g.block.WellFormed
  extent : g.extent = e
  cell? : ∀ r c, g.block.cell? r c =
    if r < e.rows ∧ c < e.cols then some (.item (cell r c)) else none

/-- A grid is made exactly when it is allowed, and it then holds what the rule gives. -/
structure Grid.Makes {ε : Type} (out : Except ε Grid) (allowed : Prop) (e : Extent)
    (cell : Nat → Nat → Item) : Prop where
  exists_iff : (∃ g, out = .ok g) ↔ allowed
  holds : ∀ g, out = .ok g → g.Holds e cell

structure Grid.ReadsItems (g : Grid) : Prop where
  get? : ∀ r c, (∃ i, g.get? r c = some i) ↔ r < g.rows ∧ c < g.cols
  get : ∀ r c, (∃ i, g.get r c = .ok i) ↔ r < g.rows ∧ c < g.cols
  cell : ∀ r c v, g.block.cell? r c = some v → v.isGrid = false
  first : g.get 0 0 = .ok g.first
  lead : (Value.grid g).lead = g.first.toCell
  unwrap : (Value.grid g).unwrap = if g.extent = .single then .item g.first else .grid g

def Value.WellFormed (v : Value) : Prop := ∀ g, v = .grid g → g.block.WellFormed

theorem Value.wellFormed (v : Value) : v.WellFormed := fun g _ => g.wellFormed_block

namespace Grid

variable {ε : Type} {out : Except ε Grid} {allowed : Prop} {e : Extent} {cell : Nat → Nat → Item}

theorem Shows.holds {g : Grid} (shows : g.Shows e cell) : g.Holds e cell where
  wellFormed := g.wellFormed_block
  extent := shows.extent
  cell? r c := by
    have rows : g.rows = e.rows := congrArg Extent.rows shows.extent
    have cols : g.cols = e.cols := congrArg Extent.cols shows.extent
    rw [cell?_block]
    split
    · rename_i inside
      rw [shows.get? inside.1 inside.2]
      rfl
    · rename_i outside
      rw [(g.get?_eq_none_iff r c).2 (by rwa [rows, cols])]
      rfl

theorem Makes.of_shows (made : allowed → ∃ g, out = .ok g ∧ g.Shows e cell)
    (only : ∀ g, out = .ok g → allowed) : Makes out allowed e cell where
  exists_iff := by
    constructor
    · rintro ⟨g, h⟩
      exact only g h
    · intro h
      obtain ⟨g, made, -⟩ := made h
      exact ⟨g, made⟩
  holds g h := (shows_of_eq_ok h (made (only g h))).holds

theorem ofFn_makes (room : Nat) (e : Extent) (f : Nat → Nat → Value) :
    Makes (ofFn room e f) (0 < e.rows ∧ 0 < e.cols ∧ e.isWithin room = true) e fun r c =>
      (f r c).toItem :=
  .of_shows (fun reserved => ofFn_shows f reserved.1 reserved.2.1 reserved.2.2)
    fun _ made => reserved_of_make made

theorem filled_makes (room : Nat) (e : Extent) (v : Value) :
    Makes (filled room e v) (0 < e.rows ∧ 0 < e.cols ∧ e.isWithin room = true) e fun _ _ =>
      v.toItem :=
  ofFn_makes room e fun _ _ => .item v.toItem

theorem reserved_of_spread {room : Nat} {v : Value} {target : Extent} {fill : Value}
    {mode : Stretch} {g : Grid} (made : v.spread room target fill mode = .ok g) :
    (0 < target.rows ∧ 0 < target.cols ∧ v.extent.fits target = true) ∧
      (v.IsSpread target ∨ target.isWithin room = true) := by
  rcases v with i | g'
  · obtain ⟨hr, hc, few⟩ := reserved_of_make made
    exact ⟨⟨hr, hc, Extent.fits_iff.2 ⟨hr, hc⟩⟩, .inr few⟩
  · simp only [Value.spread, Value.spreadBy] at made
    split at made
    · rename_i fits
      have within := Extent.fits_iff.1 fits
      refine ⟨⟨Nat.lt_of_lt_of_le g'.rows_pos within.1, Nat.lt_of_lt_of_le g'.cols_pos within.2,
        fits⟩, ?_⟩
      split at made
      · rename_i same
        exact .inl ⟨g', rfl, same⟩
      · split at made
        · exact .inr (reserved_of_make made).2.2
        · exact .inr (reserved_of_make made).2.2
    · cases made

theorem spread_makes (room : Nat) (v : Value) (target : Extent) (fill : Value) (mode : Stretch) :
    Makes (v.spread room target fill mode)
      ((0 < target.rows ∧ 0 < target.cols ∧ v.extent.fits target = true) ∧
        (v.IsSpread target ∨ target.isWithin room = true)) target
      fun r c => v.cellAt fill.toItem mode r c :=
  .of_shows (fun ⟨fits, few⟩ => v.spread_shows fill fits.1 fits.2.1 fits.2.2 few)
    fun _ made => reserved_of_spread made

def IsRectangle (rows : List (List Value)) : Prop :=
  0 < rows.length ∧ 0 < (rows.headD []).length ∧
    ∀ row ∈ rows, row.length = (rows.headD []).length ∧ ∀ v ∈ row, v.isGrid = false

theorem IsRectangle.exists_table {rows : List (List Value)} (h : IsRectangle rows) :
    ∃ table : List (List Item), rows = table.map (List.map .item) ∧
      ∀ items ∈ table, items.length = (rows.headD []).length := by
  refine ⟨rows.map (List.map Value.toItem), ?_, ?_⟩
  · have fixed : ∀ row ∈ rows, (List.map Value.item ∘ List.map Value.toItem) row = id row :=
      fun row hrow => Value.map_toItem (h.2.2 row hrow).2
    rw [List.map_map, List.map_congr_left fixed, List.map_id]
  · intro items hitems
    obtain ⟨row, hrow, rfl⟩ := List.mem_map.1 hitems
    rw [List.length_map]
    exact (h.2.2 row hrow).1

theorem ofRows_makes (rows : List (List Value)) :
    Makes (ofRows rows) (IsRectangle rows) ⟨rows.length, (rows.headD []).length⟩ fun r c =>
      ((rows[r]?.bind fun row => row[c]?).getD .blank).toItem := by
  refine .of_shows (fun rectangle => ?_) fun g h => ?_
  · obtain ⟨table, same, uniform⟩ := rectangle.exists_table
    have length : table.length = rows.length := by rw [same, List.length_map]
    obtain ⟨g, made, -, -⟩ := ofRows_map_item (length ▸ rectangle.1) rectangle.2.1 uniform
    rw [← same] at made
    obtain ⟨extent, reads⟩ := get?_of_ofRows made
    refine ⟨g, made, extent, fun {r c} hr hc => ?_⟩
    have height : g.rows = rows.length := congrArg Extent.rows extent
    have width : g.cols = (rows.headD []).length := congrArg Extent.cols extent
    obtain ⟨i, here⟩ := (g.exists_get?_iff r c).2 ⟨height ▸ hr, width ▸ hc⟩
    rw [← reads, here]
    rfl
  · obtain ⟨table, same, hr, hc, uniform⟩ := exists_of_ofRows h
    have length : table.length = rows.length := by rw [same, List.length_map]
    refine ⟨length ▸ hr, hc, fun row hrow => ?_⟩
    rw [same] at hrow
    obtain ⟨items, hitems, rfl⟩ := List.mem_map.1 hrow
    refine ⟨by rw [List.length_map, uniform items hitems], fun v hv => ?_⟩
    obtain ⟨i, -, rfl⟩ := List.mem_map.1 hv
    rfl

end Grid

theorem spreadAll_eq_ok_iff {room : Nat} {vs : List Value} {fill : Value} {mode : Stretch}
    {grids : List Grid} : spreadAll room vs fill mode = .ok grids ↔
      List.Forall₂ (fun v g => v.spread room (commonExtent vs) fill mode = .ok g) vs grids :=
  mapM_eq_ok_iff

theorem exists_spreadAll_iff {room : Nat} {vs : List Value} {fill : Value} {mode : Stretch} :
    (∃ grids, spreadAll room vs fill mode = .ok grids) ↔
      ∀ v ∈ vs, v.IsSpread (commonExtent vs) ∨ (commonExtent vs).isWithin room = true := by
  constructor
  · rintro ⟨grids, made⟩
    have each := (spreadAll_eq_ok_iff.1 made).flip
    exact forall_mem_of_forall₂ each (fun g v here _ => (Grid.reserved_of_spread here).2)
      fun _ _ => trivial
  · intro few
    obtain ⟨grids, made, -⟩ := spreadAll_shows fill mode few
    exact ⟨grids, made⟩

theorem spreadAll_holds {room : Nat} {vs : List Value} {fill : Value} {mode : Stretch}
    {grids : List Grid} (made : spreadAll room vs fill mode = .ok grids) : List.Forall₂
      (fun v g => g.Holds (commonExtent vs) fun r c => v.cellAt fill.toItem mode r c) vs grids :=
  (spreadAll_eq_ok_iff.1 made).imp fun v g here =>
    (Grid.spread_makes room v (commonExtent vs) fill mode).holds g here

/-- A grid in an answer is what the rule for the plain course gave, or has at each place the item of
what the cell rule gave there. -/
theorem SheetFunction.rule_of_invoke_eq_grid {f : SheetFunction} {settings : Settings}
    {args : List (Option Value)} {g : Grid} (answer : f.invoke settings args = .ok (.grid g)) :
    (∃ operands, f.scalarRule operands = .ok (.grid g)) ∨
      ∃ operands, g.extent = commonExtent operands ∧ ∀ r c, r < g.rows → c < g.cols →
        ∃ v, f.cellRule (alignedAt settings.stretch r c operands) = .ok v ∧
          g.block.cell? r c = some (.item v.toItem) := by
  have course := answered_of_invoke answer
  cases course with
  | cellwise h extent few places =>
    refine .inr ⟨_, extent, fun r c hr hc => ?_⟩
    obtain ⟨v, here, rule⟩ := places r c hr hc
    exact ⟨v, rule, by rw [Grid.cell?_block, here]; rfl⟩
  | plain h undriven rule => exact .inl ⟨_, rule⟩

theorem Grid.readsItems (g : Grid) : g.ReadsItems where
  get? r c := by
    have cells := @(g.wellFormed_block).exists_cell?_iff _ r c
    simpa [cell?_block] using cells
  get := g.exists_get_iff
  cell _ _ _ h := g.wellFormed_block.isGrid_of_cell? h
  first := g.get_zero
  lead := rfl
  unwrap := by
    by_cases single : g.extent = .single
    · rw [if_pos single, Value.unwrap, if_pos (Extent.isSingle_iff.2 single)]
    · rw [if_neg single, Value.unwrap, if_neg fun h => single (Extent.isSingle_iff.1 h)]

/-- The blocks of grids are the well-formed ones, and every maker of grids makes such: from rows,
rules, values and ranges, by mapping, by alignment and in calls. Reading succeeds exactly within the
extent, and wherever a cell is read from a grid, it is an item. -/
theorem made_wellFormed :
    (∀ b : Block, (∃ g : Grid, g.block = b) ↔ b.WellFormed) ∧
    (∀ rows, Grid.Makes (Grid.ofRows rows) (Grid.IsRectangle rows)
      ⟨rows.length, (rows.headD []).length⟩ fun r c =>
        ((rows[r]?.bind fun row => row[c]?).getD .blank).toItem) ∧
    (∀ room e f, Grid.Makes (Grid.ofFn room e f)
      (0 < e.rows ∧ 0 < e.cols ∧ e.isWithin room = true) e fun r c => (f r c).toItem) ∧
    (∀ room e v, Grid.Makes (Grid.filled room e v)
      (0 < e.rows ∧ 0 < e.cols ∧ e.isWithin room = true) e fun _ _ => v.toItem) ∧
    (∀ source range, (Grid.window source range).Holds ⟨range.rowCount, range.colCount⟩ fun r c =>
      .ofCell? (source (range.first.offset r c))) ∧
    (∀ (g : Grid) f, (g.map f).block.WellFormed ∧ (g.map f).extent = g.extent ∧
      ∀ r c, (g.map f).get? r c = (g.get? r c).map fun i => (f i r c).toItem) ∧
    (∀ (v : Value) f, (v.map f).WellFormed) ∧
    (∀ room v target fill mode, Grid.Makes (Value.spread room v target fill mode)
      ((0 < target.rows ∧ 0 < target.cols ∧ v.extent.fits target = true) ∧
        (v.IsSpread target ∨ target.isWithin room = true)) target fun r c =>
          v.cellAt fill.toItem mode r c) ∧
    (∀ room vs fill mode,
      ((∃ grids, spreadAll room vs fill mode = .ok grids) ↔
        ∀ v ∈ vs, v.IsSpread (commonExtent vs) ∨ (commonExtent vs).isWithin room = true) ∧
      ∀ grids, spreadAll room vs fill mode = .ok grids → List.Forall₂ (fun v g =>
        g.Holds (commonExtent vs) fun r c => v.cellAt fill.toItem mode r c) vs grids) ∧
    (∀ (f : SheetFunction) settings args,
      (f.Answering → args.length ≤ f.signature.most → ∃ v, f.invoke settings args = .ok v) ∧
      (∀ v, f.invoke settings args = .ok v → v.WellFormed) ∧
      ∀ g, f.invoke settings args = .ok (.grid g) →
        (∃ operands, f.scalarRule operands = .ok (.grid g)) ∨
          ∃ operands, g.extent = commonExtent operands ∧ ∀ r c, r < g.rows → c < g.cols →
            ∃ v, f.cellRule (alignedAt settings.stretch r c operands) = .ok v ∧
              g.block.cell? r c = some (.item v.toItem)) ∧
    (∀ (e : Engine) name args v, e.call name args = .ok v → v.WellFormed) ∧
    (∀ g : Grid, g.ReadsItems) := by
  refine ⟨fun b => Grid.exists_block_iff, Grid.ofRows_makes, Grid.ofFn_makes, Grid.filled_makes,
    fun source range => (Grid.window_shows source range).holds,
    fun g f => ⟨(g.map f).wellFormed_block, g.extent_map f, g.get?_map f⟩,
    fun v f => (v.map f).wellFormed, Grid.spread_makes,
    fun room vs fill mode => ⟨exists_spreadAll_iff, fun _ => spreadAll_holds⟩, ?_,
    fun e name args v _ => v.wellFormed, Grid.readsItems⟩
  intro f settings args
  exact ⟨fun answering arity => answering.exists_invoke settings arity,
    fun v _ => v.wellFormed, fun g answer => SheetFunction.rule_of_invoke_eq_grid answer⟩

def letterPair : Grid := Place.beside (.scalar (.text "a")) (.scalar (.text "b"))

def pairing : SheetFunction where
  signature := ⟨"PAIR", [.required "value"], .every, rfl, rfl⟩
  cellRule := GenericRule.pair.rule
  scalarRule? := none

theorem invoke_pairing : ∃ g, pairing.invoke .standard [some (.grid letterPair)] = .ok (.grid g) ∧
    g.block.cell? 0 1 = some (.text "b") := ⟨_, rfl, rfl⟩

theorem made_wellFormed_pairing :
    (∃ g, Grid.ofFn Grid.capacity ⟨2, 3⟩ (fun _ _ => .grid letterPair) = .ok g ∧
      g.Holds ⟨2, 3⟩ fun _ _ => .scalar (.text "a")) ∧
    pairing.Answering ∧ (∃ v, pairing.invoke .standard [some (.grid letterPair)] = .ok v) ∧
    ∃ g, pairing.invoke .standard [some (.grid letterPair)] = .ok (.grid g) ∧ g.block.WellFormed ∧
      g.block.cell? 0 1 = some (.text "b") ∧ (Value.text "b").isGrid = false := by
  obtain ⟨-, -, ofFn, -, -, -, -, -, -, invoked, -, read⟩ := made_wellFormed
  have made := ofFn Grid.capacity ⟨2, 3⟩ fun _ _ => .grid letterPair
  have answering : pairing.Answering := ⟨fun _ _ => ⟨_, rfl⟩, fun _ _ _ => ⟨_, rfl⟩⟩
  obtain ⟨answers, wellFormed, -⟩ := invoked pairing .standard [some (.grid letterPair)]
  obtain ⟨g, hg⟩ := made.exists_iff.2 ⟨by decide, by decide, by decide⟩
  obtain ⟨h, answer, here⟩ := invoke_pairing
  exact ⟨⟨g, hg, made.holds g hg⟩, answering, answers answering (Nat.le_refl 1), h, answer,
    wellFormed (.grid h) answer h rfl, here,
    (read h).cell 0 1 _ here⟩

end Worksheet
