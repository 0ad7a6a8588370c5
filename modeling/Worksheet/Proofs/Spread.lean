import Worksheet.Proofs.CommonExtent
import Worksheet.Proofs.WellFormed

/-! Values spread over an extent. This fails when the extent has no cell, when a grid does not fit
into it, and when there is no room for a grid where one has to be made. Otherwise the policy is told
by four cases, whichever short cut is taken for lone items, for grids that have the extent already
and for grids of one cell. Main statements: the policy, that the modes agree inside of a value, and
when the fill plays no part; and that over their common extent values only ever lack room. -/

namespace Worksheet

namespace Value

variable {room : Nat} {v : Value} {target : Extent} {fill fill' : Value} {mode mode' : Stretch}
  {r c : Nat} {g g' : Grid} {b : Breach}

/-- The policy for a place of an extent over which a value is spread. A grid of several cells is
read at the place itself, except that a lone row is read there whatever the row, and a lone column
whatever the column, where such are repeated. -/
inductive SpreadsTo (fill : Item) (mode : Stretch) (r c : Nat) : Value → Item → Prop
  | item (i : Item) : SpreadsTo fill mode r c (.item i) i
  | single {g : Grid} {i : Item} (one : g.extent = .single) (here : g.get? 0 0 = some i) :
    SpreadsTo fill mode r c (.grid g) i
  | inside {g : Grid} {i : Item} (many : g.extent ≠ .single)
    (here : g.get? (if mode = .replicate ∧ g.rows = 1 then 0 else r)
      (if mode = .replicate ∧ g.cols = 1 then 0 else c) = some i) :
    SpreadsTo fill mode r c (.grid g) i
  | outside {g : Grid} (many : g.extent ≠ .single)
    (beyond : g.get? (if mode = .replicate ∧ g.rows = 1 then 0 else r)
      (if mode = .replicate ∧ g.cols = 1 then 0 else c) = none) :
    SpreadsTo fill mode r c (.grid g) fill

theorem spreadsTo_iff {fill i : Item} :
    v.SpreadsTo fill mode r c i ↔ v.cellAt fill mode r c = i := by
  constructor
  · intro policy
    cases policy with
    | item => rfl
    | @single g _ one here =>
      rw [g.get?_zero] at here
      rw [cellAt, if_pos (Extent.isSingle_iff.2 one)]
      exact Option.some.inj here
    | inside many here =>
      rw [cellAt, if_neg (mt Extent.isSingle_iff.1 many)]
      exact congrArg (Option.getD · fill) here
    | outside many beyond =>
      rw [cellAt, if_neg (mt Extent.isSingle_iff.1 many)]
      exact congrArg (Option.getD · fill) beyond
  · rintro rfl
    rcases v with i | g
    · exact .item i
    · rw [cellAt]
      split
      · rename_i one
        exact .single (Extent.isSingle_iff.1 one) g.get?_zero
      · rename_i many
        have many : g.extent ≠ .single := mt Extent.isSingle_iff.2 many
        cases read : g.get? (readAt mode g.rows r) (readAt mode g.cols c) with
        | some i => exact .inside many read
        | none => exact .outside many read

theorem exists_spread_iff :
    (∃ g, v.spread room target fill mode = .ok g) ↔
      (0 < target.rows ∧ 0 < target.cols ∧ v.extent.fits target = true) ∧
        (v.IsSpread target ∨ target.isWithin room = true) :=
  (Grid.spread_makes room v target fill mode).exists_iff

theorem spread_eq_error_iff :
    (∃ b, v.spread room target fill mode = .error b) ↔
      target.rows = 0 ∨ target.cols = 0 ∨
        (∃ g, v = .grid g ∧ (target.rows < g.rows ∨ target.cols < g.cols)) ∨
        ¬v.IsSpread target ∧
          (UInt64.size ≤ target.rows * target.cols ∨ room < target.rows * target.cols) := by
  rw [exists_error_iff, exists_spread_iff, not_and_or, not_or, Extent.not_isWithin_iff, Extent.fits_iff,
    ← or_assoc, ← or_assoc]
  refine or_congr ?_ .rfl
  -- A lone item fits wherever there is a cell.
  rcases v with i | g
  · simp only [extent, Extent.single, reduceCtorEq, false_and, exists_false, or_false]
    omega
  · simp only [extent, Grid.extent, grid.injEq, exists_eq_left']
    omega

theorem breach_of_spread (hr : 0 < target.rows) (hc : 0 < target.cols)
    (fits : v.extent.fits target = true) (refused : v.spread room target fill mode = .error b) :
    b = .uncountable ∨ b = .noRoom := by
  rcases v with i | g
  · exact Grid.breach_of_make hr hc (fun _ _ _ _ => ⟨_, rfl⟩) refused
  · change g.extent.fits target = true at fits
    simp only [spread, spreadBy, if_pos fits] at refused
    split at refused
    · cases refused
    · split at refused
      · exact Grid.breach_of_make hr hc (fun _ _ _ _ => ⟨_, rfl⟩) refused
      · refine Grid.breach_of_make hr hc (fun r c _ _ => ?_) refused
        split
        · exact ⟨_, rfl⟩
        · exact ⟨_, rfl⟩

theorem shows_of_spread (made : v.spread room target fill mode = .ok g) :
    g.Shows target fun r c => v.cellAt fill.toItem mode r c := by
  obtain ⟨⟨hr, hc, fits⟩, few⟩ := exists_spread_iff.1 ⟨g, made⟩
  exact Grid.shows_of_eq_ok made (v.spread_shows fill hr hc fits few)

theorem cellAt_eq_of_lt {fill fill' : Item} (hr : r < v.extent.rows) (hc : c < v.extent.cols) :
    v.cellAt fill mode r c = v.cellAt fill' mode' r c := by
  rcases v with i | g
  · rfl
  · exact Option.some.inj ((cellAt_of_lt hr hc).symm.trans (cellAt_of_lt hr hc))

theorem readAt_replicate_lt {length size i : Nat} (h : length = 1 ∨ length = size) (hi : i < size) :
    readAt .replicate length i < length := by
  unfold readAt
  split
  · omega
  · rename_i many
    have several : length ≠ 1 := fun one => many ⟨rfl, one⟩
    omega

theorem spread_congr_fill (rows : v.extent.rows = 1 ∨ v.extent.rows = target.rows)
    (cols : v.extent.cols = 1 ∨ v.extent.cols = target.cols) :
    v.spread room target fill .replicate = v.spread room target fill' .replicate := by
  rcases v with i | g
  · rfl
  · have here : ∀ r c, r < target.rows → c < target.cols →
        ∃ i, g.get? (readAt .replicate g.rows r) (readAt .replicate g.cols c) = some i :=
      fun r c hr hc => ⟨_, g.get?_eq_some_item (readAt_replicate_lt rows hr)
        (readAt_replicate_lt cols hc)⟩
    simp only [spread, spreadBy]
    congr 3
    refine Grid.make_congr fun r c hr hc => ?_
    obtain ⟨i, here⟩ := here r c hr hc
    rw [here]

/-- Spreading fails for an extent without cells, for a grid that reaches beyond it, and for more
cells than there is room for, unless the value is a grid of the extent already. Otherwise it gives a
grid of the extent in which each place is told by the policy. All modes agree inside of the value.
Where lone rows and columns are repeated, and the other ones reach across the extent, the fill is
not seen. -/
theorem spread_outcome (room : Nat) (v : Value) (target : Extent) (fill : Value) (mode : Stretch) :
    ((∃ b, v.spread room target fill mode = .error b) ↔
      target.rows = 0 ∨ target.cols = 0 ∨
        (∃ g, v = .grid g ∧ (target.rows < g.rows ∨ target.cols < g.cols)) ∨
        ¬v.IsSpread target ∧
          (UInt64.size ≤ target.rows * target.cols ∨ room < target.rows * target.cols)) ∧
    (∀ g, v.spread room target fill mode = .ok g → g.extent = target ∧
      ∃ filler, fill.Keeps filler ∧ ∀ r c, r < target.rows → c < target.cols →
        ∀ i, g.get? r c = some i ↔ v.SpreadsTo filler mode r c i) ∧
    (∀ mode' g g', v.spread room target fill mode = .ok g →
      v.spread room target fill mode' = .ok g' →
      ∀ r c, r < v.extent.rows → c < v.extent.cols → g.get? r c = g'.get? r c) ∧
    ((v.extent.rows = 1 ∨ v.extent.rows = target.rows) →
      (v.extent.cols = 1 ∨ v.extent.cols = target.cols) →
      ∀ fill', v.spread room target fill .replicate = v.spread room target fill' .replicate) := by
  refine ⟨spread_eq_error_iff, fun g made => ?_, fun mode' g g' made made' r c hr hc => ?_,
    fun rows cols fill' => spread_congr_fill rows cols⟩
  · have shows := shows_of_spread made
    refine ⟨shows.extent, fill.toItem, keeps_iff.2 rfl, fun r c hr hc i => ?_⟩
    rw [shows.get? hr hc, Option.some_inj, spreadsTo_iff]
  · have fits := Extent.fits_iff.1 (exists_spread_iff.1 ⟨g, made⟩).1.2.2
    have hr' := Nat.lt_of_lt_of_le hr fits.1
    have hc' := Nat.lt_of_lt_of_le hc fits.2
    rw [(shows_of_spread made).get? hr' hc', (shows_of_spread made').get? hr' hc',
      cellAt_eq_of_lt hr hc]

/-- A number is no larger than the extent, which has cells, yet there is no room for so many. -/
theorem spread_beyond_capacity :
    let target : Extent := ⟨1152921504606846976, 1⟩
    (∃ b, (number 1).spread Grid.capacity target .blank .pad = .error b) ∧
      ¬(target.rows = 0 ∨ target.cols = 0 ∨
        ∃ g, number 1 = .grid g ∧ (target.rows < g.rows ∨ target.cols < g.cols)) :=
  ⟨⟨.noRoom, rfl⟩, by simp⟩

/-- A row of two letters over two rows and three columns: below itself it is repeated or filled, to
its right it is filled either way. It does not fit into one column. -/
theorem spread_outcome_row :
    let row : Value := .grid (Place.beside (.scalar (.text "a")) (.scalar (.text "b")))
    (∃ b, row.spread Grid.capacity ⟨2, 1⟩ .notAvailable .pad = .error b) ∧
      (∃ g, row.spread Grid.capacity ⟨2, 3⟩ (.text "-") .replicate = .ok g ∧ g.extent = ⟨2, 3⟩ ∧
        g.get? 1 1 = some (.scalar (.text "b")) ∧ g.get? 1 2 = some (.scalar (.text "-"))) ∧
      (∃ g, row.spread Grid.capacity ⟨2, 3⟩ (.text "-") .pad = .ok g ∧
        g.get? 1 1 = some (.scalar (.text "-"))) ∧
      row.spread Grid.capacity ⟨2, 2⟩ .notAvailable .replicate =
        row.spread Grid.capacity ⟨2, 2⟩ .blank .replicate := by
  intro row
  obtain ⟨g, made⟩ : ∃ g, row.spread Grid.capacity ⟨2, 3⟩ (.text "-") .replicate = .ok g := ⟨_, rfl⟩
  obtain ⟨g', made'⟩ : ∃ g, row.spread Grid.capacity ⟨2, 3⟩ (.text "-") .pad = .ok g := ⟨_, rfl⟩
  obtain ⟨-, repeated, -⟩ := spread_outcome Grid.capacity row ⟨2, 3⟩ (.text "-") .replicate
  obtain ⟨-, padded, -⟩ := spread_outcome Grid.capacity row ⟨2, 3⟩ (.text "-") .pad
  obtain ⟨extent, filler, keeps, places⟩ := repeated g made
  obtain ⟨-, filler', keeps', places'⟩ := padded g' made'
  cases keeps
  cases keeps'
  have many : (Place.beside (.scalar (.text "a")) (.scalar (.text "b"))).extent ≠ .single := by
    decide
  have large : ∃ g, row = .grid g ∧ (2 < g.rows ∨ 1 < g.cols) := ⟨_, rfl, .inr (by decide)⟩
  refine ⟨(spread_outcome Grid.capacity row ⟨2, 1⟩ .notAvailable .pad).1.2
      (.inr (.inr (.inl large))), ⟨g, made, extent, ?_, ?_⟩, ⟨g', made', ?_⟩, ?_⟩
  · exact (places 1 1 (by decide) (by decide) _).2 (.inside many rfl)
  · exact (places 1 2 (by decide) (by decide) _).2 (.outside many rfl)
  · exact (places' 1 1 (by decide) (by decide) _).2 (.outside many rfl)
  · exact (spread_outcome Grid.capacity row ⟨2, 2⟩ .notAvailable .pad).2.2.2 (.inl rfl) (.inr rfl)
      .blank

end Value

section All

variable {vs : List Value} {room : Nat} {fill : Value} {mode : Stretch} {b : Breach}

theorem spreadAll_eq_error_iff :
    (∃ b, spreadAll room vs fill mode = .error b) ↔
      (∃ v ∈ vs, ¬v.IsSpread (commonExtent vs)) ∧
        (UInt64.size ≤ (commonExtent vs).rows * (commonExtent vs).cols ∨
          room < (commonExtent vs).rows * (commonExtent vs).cols) := by
  rw [exists_error_iff, exists_spreadAll_iff, ← Extent.not_isWithin_iff]
  simp only [not_forall, not_or, exists_prop]
  constructor
  · rintro ⟨v, hv, other, large⟩
    exact ⟨⟨v, hv, other⟩, large⟩
  · rintro ⟨⟨v, hv, other⟩, large⟩
    exact ⟨v, hv, other, large⟩

theorem breach_of_spreadAll (refused : spreadAll room vs fill mode = .error b) :
    b = .uncountable ∨ b = .noRoom := by
  obtain ⟨v, hv, refused⟩ := exists_of_mapM_eq_error refused
  obtain ⟨hr, hc⟩ := commonExtent_pos vs
  exact Value.breach_of_spread hr hc (extent_fits_commonExtent hv) refused

/-- Values are spread over their common extent one by one. None is too large for it, so that only
the room can be lacking. -/
theorem commonExtent_laws (vs : List Value) :
    (∀ e : Extent, e.IsCommon vs ↔ e = commonExtent vs) ∧
    (∀ ws, (∀ v, v ∈ ws ↔ v ∈ vs) → commonExtent ws = commonExtent vs) ∧
    (∀ ws, commonExtent (vs ++ ws) = (commonExtent vs).join (commonExtent ws)) ∧
    ∀ room fill mode,
      ((∃ b, spreadAll room vs fill mode = .error b) ↔
        (∃ v ∈ vs, ¬v.IsSpread (commonExtent vs)) ∧
          (UInt64.size ≤ (commonExtent vs).rows * (commonExtent vs).cols ∨
            room < (commonExtent vs).rows * (commonExtent vs).cols)) ∧
      (∀ b, spreadAll room vs fill mode = .error b → b = .uncountable ∨ b = .noRoom) ∧
      ∀ grids, spreadAll room vs fill mode = .ok grids → List.Forall₂ (fun v g =>
        v.spread room (commonExtent vs) fill mode = .ok g ∧ g.extent = commonExtent vs) vs grids :=
  ⟨fun _ => isCommon_iff, fun _ => commonExtent_eq_of_mem_iff, commonExtent_append vs,
    fun _ _ _ => ⟨spreadAll_eq_error_iff, fun _ => breach_of_spreadAll,
      fun _ made => (spreadAll_eq_ok_iff.1 made).imp fun _ _ here =>
        ⟨here, (Value.shows_of_spread here).extent⟩⟩⟩

/-- A lone column as long as a sheet and a row of cells in memory have more cells in common than
there is room for. -/
theorem spreadAll_beyond_capacity :
    let column : Value := .ofRange (fun _ => none) (.ofCorners ⟨0, 0⟩ ⟨4294967295, 0⟩)
    let row : Value :=
      .grid (.tabulate 1 45000000 (Nat.succ_pos _) (Nat.succ_pos _) fun _ _ => .blank)
    ∃ b, spreadAll Grid.capacity [column, row] .blank .pad = .error b := by
  intro column row
  have common : commonExtent [column, row] = ⟨4294967296, 45000000⟩ := rfl
  have other : ¬column.IsSpread (commonExtent [column, row]) := fun spread =>
    absurd (congrArg Extent.cols (spread.extent_eq.trans common)) (by decide)
  refine spreadAll_eq_error_iff.2 ⟨⟨column, by simp, other⟩, ?_⟩
  rw [common]
  exact .inr (by decide)

/-- A column of two cells and a row of two have two rows and two columns in common, in either order
and with the row given twice. -/
theorem commonExtent_laws_cross :
    let column : Value := .grid (Place.above .blank .blank)
    let row : Value := .grid (Place.beside .blank .blank)
    Extent.IsCommon ⟨2, 2⟩ [column, row] ∧
      commonExtent [row, column, row] = commonExtent [column, row] ∧
      commonExtent ([column] ++ [row]) = (commonExtent [column]).join (commonExtent [row]) ∧
      (∃ b, spreadAll 3 [column, row] .notAvailable .pad = .error b) ∧
      ∃ grids, spreadAll 4 [column, row] .notAvailable .pad = .ok grids ∧ grids.length = 2 := by
  intro column row
  obtain ⟨least, members, -, spread⟩ := commonExtent_laws [column, row]
  obtain ⟨grids, made⟩ : ∃ grids, spreadAll 4 [column, row] .notAvailable .pad = .ok grids :=
    exists_spreadAll_iff.2 fun _ _ => .inr rfl
  have same : ∀ v, v ∈ [row, column, row] ↔ v ∈ [column, row] := by
    intro v
    simp only [List.mem_cons, List.not_mem_nil, or_false]
    tauto
  have other : ¬column.IsSpread (commonExtent [column, row]) := fun spread =>
    absurd (congrArg Extent.cols spread.extent_eq) (by decide)
  exact ⟨(least _).2 rfl, members _ same, (commonExtent_laws [column]).2.2.1 [row],
    (spread 3 .notAvailable .pad).1.2 ⟨⟨column, by simp, other⟩, .inr (by decide)⟩, grids, made,
    ((spread 4 .notAvailable .pad).2.2 grids made).length_eq.symm⟩

end All

end Worksheet
