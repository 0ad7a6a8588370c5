import Worksheet.Alignment
import Worksheet.Proofs.Grid.Build

/-! Alignment place by place. What a value shows at a place depends on the value, the mode and the
place alone: neither the other operands nor the extent they are brought to play a part, as long as
the value fits. -/

namespace Worksheet

theorem foldl_join_fits_iff {vs : List Value} {e f : Extent} :
    (vs.foldl (fun e v => e.join v.extent) e).fits f = true ↔
      e.fits f = true ∧ ∀ v ∈ vs, v.extent.fits f = true := by
  induction vs generalizing e with
  | nil => simp
  | cons v vs ih => rw [List.foldl_cons, ih, Extent.join_fits_iff, List.forall_mem_cons, and_assoc]

theorem commonExtent_fits_iff {vs : List Value} {e : Extent} :
    (commonExtent vs).fits e = true ↔
      Extent.single.fits e = true ∧ ∀ v ∈ vs, v.extent.fits e = true :=
  foldl_join_fits_iff

theorem commonExtent_eq_of_map_extent {vs ws : List Value}
    (same : vs.map Value.extent = ws.map Value.extent) : commonExtent vs = commonExtent ws := by
  have folded := congrArg (List.foldl Extent.join .single) same
  rwa [List.foldl_map, List.foldl_map] at folded

theorem extent_fits_commonExtent {vs : List Value} {v : Value} (h : v ∈ vs) :
    v.extent.fits (commonExtent vs) = true :=
  (commonExtent_fits_iff.1 (Extent.fits_refl _)).2 v h

theorem commonExtent_pos (vs : List Value) :
    0 < (commonExtent vs).rows ∧ 0 < (commonExtent vs).cols := by
  have h := (commonExtent_fits_iff.1 (Extent.fits_refl (commonExtent vs))).1
  simp only [Extent.fits_iff, Extent.single] at h
  omega

namespace Value

/-- The item that a value shows at a place of any extent into which it fits. A grid of one cell
shows its item everywhere, another grid the fill outside of itself. -/
def cellAt (fill : Item) (mode : Stretch) (r c : Nat) : Value → Item
  | item i => i
  | grid g =>
    if g.extent.isSingle then g.first
    else (g.get? (readAt mode g.rows r) (readAt mode g.cols c)).getD fill

variable {fill : Item} {mode : Stretch}

@[simp] theorem cellAt_item (i : Item) (r c : Nat) : (item i).cellAt fill mode r c = i := rfl

@[simp] theorem cellAt_unwrap (v : Value) (r c : Nat) :
    v.unwrap.cellAt fill mode r c = v.cellAt fill mode r c := by
  rcases v with i | g
  · rfl
  · rw [unwrap]
    split
    · rename_i h
      exact (if_pos h).symm
    · rfl

theorem readAt_of_lt {length i : Nat} (h : i < length) : readAt mode length i = i := by
  unfold readAt
  split
  · omega
  · rfl

theorem cellAt_of_lt {g : Grid} {r c : Nat} (hr : r < g.rows) (hc : c < g.cols) :
    g.get? r c = some ((grid g).cellAt fill mode r c) := by
  rw [cellAt, readAt_of_lt hr, readAt_of_lt hc]
  split
  · rename_i h
    have single := Extent.isSingle_iff.1 h
    have rows : g.rows = 1 := congrArg Extent.rows single
    have cols : g.cols = 1 := congrArg Extent.cols single
    obtain rfl : r = 0 := by omega
    obtain rfl : c = 0 := by omega
    exact g.get?_zero
  · rw [g.get?_eq_some_item hr hc]
    rfl

def IsSpread (v : Value) (target : Extent) : Prop := ∃ g, v = grid g ∧ g.extent = target

theorem IsSpread.extent_eq {v : Value} {target : Extent} (h : v.IsSpread target) :
    v.extent = target := by
  obtain ⟨g, rfl, same⟩ := h
  exact same

theorem spread_shows {room : Nat} {v : Value} {target : Extent} (fill : Value)
    (hr : 0 < target.rows) (hc : 0 < target.cols) (h : v.extent.fits target = true)
    (few : v.IsSpread target ∨ target.isWithin room = true) :
    ∃ g, v.spread room target fill mode = .ok g ∧
      g.Shows target fun r c => v.cellAt fill.toItem mode r c := by
  rcases v with i | g
  · have few := few.resolve_left fun ⟨_, no, _⟩ => nomatch no
    exact Grid.make_shows _ hr hc few fun _ _ _ _ => rfl
  · change g.extent.fits target = true at h
    simp only [spread, spreadBy, if_pos h]
    split
    · rename_i same
      subst same
      exact ⟨g, rfl, rfl, fun hr hc => cellAt_of_lt hr hc⟩
    · rename_i other
      have few := few.resolve_left fun ⟨_, same, extent⟩ => other (grid.inj same ▸ extent)
      split
      · rename_i single
        refine (Grid.make_shows (fun _ _ => item g.first) hr hc few fun _ _ _ _ => rfl).imp
          fun g' made => ⟨made.1, made.2.congr fun r c _ _ => ?_⟩
        rw [cellAt, if_pos single]
        rfl
      · rename_i many
        let cell (r c : Nat) : Value :=
          ((g.get? (readAt mode g.rows r) (readAt mode g.cols c)).map item).getD fill
        refine (Grid.make_shows cell hr hc few fun r c _ _ => ?_).imp
          fun g' made => ⟨made.1, made.2.congr fun r c _ _ => ?_⟩
        · simp only [cell]
          cases g.get? (readAt mode g.rows r) (readAt mode g.cols c) <;> rfl
        · simp only [cell]
          rw [cellAt, if_neg many]
          cases g.get? (readAt mode g.rows r) (readAt mode g.cols c) <;> rfl

end Value

theorem spreadAll_shows {room : Nat} {vs : List Value} (fill : Value) (mode : Stretch)
    (few : ∀ v ∈ vs, v.IsSpread (commonExtent vs) ∨ (commonExtent vs).isWithin room = true) :
    ∃ grids, spreadAll room vs fill mode = .ok grids ∧
      List.Forall₂ (fun v g => g.Shows (commonExtent vs) fun r c => v.cellAt fill.toItem mode r c)
        vs grids := by
  obtain ⟨hr, hc⟩ := commonExtent_pos vs
  exact exists_mapM fun v hv => v.spread_shows fill hr hc (extent_fits_commonExtent hv) (few v hv)

/-- What the cell rule of a function is given at a place: the item of each argument there. -/
def alignedAt (mode : Stretch) (r c : Nat) (args : List Value) : List Value :=
  args.map fun v => .item (v.cellAt (.fault .na) mode r c)

@[simp] theorem length_alignedAt (mode : Stretch) (r c : Nat) (args : List Value) :
    (alignedAt mode r c args).length = args.length := by
  simp [alignedAt]

theorem isGrid_of_mem_alignedAt {mode : Stretch} {r c : Nat} {args : List Value} {v : Value}
    (h : v ∈ alignedAt mode r c args) : v.isGrid = false := by
  obtain ⟨a, -, rfl⟩ := List.mem_map.1 h
  rfl

end Worksheet
