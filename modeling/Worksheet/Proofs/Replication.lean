import Worksheet.Function.Generic
import Worksheet.Proofs.CommonExtent
import Worksheet.Proofs.Call

/-! Scalars replicated by hand. Where every parameter drives, a call itself repeats a scalar across
the common extent of its operands, or takes it out of a grid of its own. Main statement: so it makes
no difference if this was done to some of the scalars before the call. -/

namespace Worksheet

namespace Value

/-- The second value is the first, or the same scalar in a grid of its own or all over an extent. -/
inductive Replicates (target : Extent) : Value → Value → Prop
  | kept (v : Value) : Replicates target v v
  | single {s : Scalar} {g : Grid} (extent : g.extent = .single) (first : g.first = .scalar s) :
    Replicates target (.scalar s) (.grid g)
  | filled {s : Scalar} {g : Grid} {room : Nat}
    (made : Grid.filled room target (.scalar s) = .ok g) :
    Replicates target (.scalar s) (.grid g)

namespace Replicates

variable {target : Extent} {v w : Value} {vs ws : List Value}

theorem failure? (same : Replicates target v w) : v.failure? = w.failure? := by
  cases same <;> rfl

theorem unwrap (same : Replicates .single v w) : v.unwrap = w.unwrap := by
  have alone {s : Scalar} {g : Grid} (extent : g.extent = .single) (first : g.first = .scalar s) :
      (Value.scalar s).unwrap = (Value.grid g).unwrap := by
    rw [Value.unwrap, Value.unwrap, if_pos (Extent.isSingle_iff.2 extent), first]
  cases same with
  | kept => rfl
  | single extent first => exact alone extent first
  | @filled s g room made =>
    have shows := Grid.shows_of_filled made
    have first := shows.get? (Nat.succ_pos 0) (Nat.succ_pos 0)
    rw [g.get?_zero] at first
    exact alone shows.extent (Option.some.inj first)

theorem cellAt {fill : Item} {mode : Stretch} {r c : Nat} (same : Replicates target v w)
    (hr : r < target.rows) (hc : c < target.cols) :
    v.cellAt fill mode r c = w.cellAt fill mode r c := by
  cases same with
  | kept => rfl
  | single extent first =>
    rw [cellAt_item, Value.cellAt, if_pos (Extent.isSingle_iff.2 extent), first]
  | @filled s g room made =>
    have shows := Grid.shows_of_filled made
    have rows : g.rows = target.rows := congrArg Extent.rows shows.extent
    have cols : g.cols = target.cols := congrArg Extent.cols shows.extent
    have here := shows.get? hr hc
    rw [cellAt_of_lt (rows ▸ hr) (cols ▸ hc)] at here
    exact (Option.some.inj here).symm

theorem extent_eq (same : Replicates target v w) :
    w.extent = v.extent ∨ v.extent = .single ∧ w.extent = target := by
  cases same with
  | kept => exact .inl rfl
  | single extent => exact .inl extent
  | filled made => exact .inr ⟨rfl, (Grid.shows_of_filled made).extent⟩

theorem commonExtent_eq (same : List.Forall₂ (Replicates (commonExtent vs)) vs ws) :
    commonExtent vs = commonExtent ws := by
  have pos (vs : List Value) : Extent.single.fits (commonExtent vs) = true :=
    Extent.single_fits_iff.2 (commonExtent_pos vs)
  refine Extent.fits_antisymm (commonExtent_fits_iff.2 ⟨pos ws, ?_⟩)
    (commonExtent_fits_iff.2 ⟨pos vs, ?_⟩)
  · refine forall_mem_of_forall₂ same.flip (fun w v same fits => ?_)
      fun w => extent_fits_commonExtent
    rcases extent_eq same with extent | ⟨lone, -⟩
    · exact extent ▸ fits
    · exact lone ▸ pos ws
  · refine forall_mem_of_forall₂ same (fun v w same fits => ?_) fun v => extent_fits_commonExtent
    rcases same.extent_eq with extent | ⟨-, whole⟩
    · exact extent ▸ fits
    · exact whole ▸ Extent.fits_refl _

end Replicates

end Value

namespace Signature

variable {s : Signature} {bound bound' : List Value}

theorem isDriven_iff_ne_single (every : s.drive = .every) :
    s.isDriven (s.unwrapDriving bound) = true ↔ commonExtent bound ≠ .single := by
  constructor
  · intro driven
    obtain ⟨i, g, -, here⟩ := isDriven_iff.1 driven
    have fits := extent_fits_commonExtent (List.mem_of_getElem? here)
    rw [commonExtent_unwrapDriving] at fits
    rw [getElem?_unwrapDriving, Option.map_eq_some_iff] at here
    obtain ⟨v, -, left⟩ := here
    rw [every] at left
    have several := Value.not_isSingle_of_unwrap_eq_grid left
    intro single
    rw [single] at fits
    have lone : g.extent.isSingle = true := Extent.isSingle_iff.2 <|
      Extent.fits_antisymm fits (Extent.single_fits_iff.2 ⟨g.rows_pos, g.cols_pos⟩)
    rw [lone] at several
    cases several
  · intro several
    by_contra undriven
    refine several (Extent.fits_antisymm ?_ (Extent.single_fits_iff.2 (commonExtent_pos bound)))
    rw [← s.commonExtent_unwrapDriving, commonExtent_fits_iff]
    refine ⟨Extent.fits_refl _, fun v hv => ?_⟩
    have isItem := s.isGrid_of_undriven every (Bool.not_eq_true _ ▸ undriven) hv
    rcases v with i | g
    · exact Extent.fits_refl _
    · cases isItem

theorem unwrapDriving_of_replicates (every : s.drive = .every)
    (same : List.Forall₂ (Value.Replicates .single) bound bound') :
    s.unwrapDriving bound = s.unwrapDriving bound' := by
  have unwrapped : List.Forall₂ Eq (s.unwrapDriving bound) (s.unwrapDriving bound') := by
    refine forall₂_mapIdx same fun i v w here => ?_
    rw [every]
    exact here.unwrap
  rwa [List.forall₂_eq_eq_eq] at unwrapped

end Signature

namespace SheetFunction

variable {f : SheetFunction} {settings : Settings} {bound bound' : List Value}

theorem apply_of_replicates (every : f.signature.drive = .every)
    (same : List.Forall₂ (Value.Replicates (commonExtent bound)) bound bound') :
    f.applyBy settings.maker settings bound = f.applyBy settings.maker settings bound' := by
  have failures := f.signature.eagerFailure?_congr same fun _ _ here => here.failure?
  have extents := Value.Replicates.commonExtent_eq same
  unfold applyBy
  rw [failures]
  cases f.signature.eagerFailure? bound' with
  | some e => rfl
  | none =>
    by_cases single : commonExtent bound = .single
    · rw [single] at same
      rw [Signature.unwrapDriving_of_replicates every same]
    · have driven := (Signature.isDriven_iff_ne_single every).2 single
      have driven' := (Signature.isDriven_iff_ne_single every).2 (extents ▸ single)
      simp only [driven, driven', if_true]
      refine acrossCells_congr ?_ fun r c hr hc => ?_
      · rw [Signature.commonExtent_unwrapDriving, Signature.commonExtent_unwrapDriving, extents]
      · rw [Signature.commonExtent_unwrapDriving, ← extents] at hr hc
        rw [Signature.alignedAt_unwrapDriving, Signature.alignedAt_unwrapDriving]
        exact map_eq_of_forall₂ same fun v w here => congrArg Value.item (here.cellAt hr hc)

/-- In a call of a function that every parameter drives, any of the scalars may be given in a grid
of its own, or as the grid that repeats it all over the common extent of the values that are bound,
whether or not the settings allow so many cells. There is such a grid wherever there is room. -/
theorem invoke_replicated (f : SheetFunction) (settings : Settings) {args : List (Option Value)}
    {bound : List Value} (every : f.signature.drive = .every)
    (complete : f.signature.bind args = some bound) :
    (∀ room, (commonExtent bound).isWithin room = true →
      ∀ s, ∃ g, Grid.filled room (commonExtent bound) (.scalar s) = .ok g) ∧
    ∀ args', List.Forall₂ (Option.Rel (Value.Replicates (commonExtent bound))) args args' →
      f.invoke settings args' = f.invoke settings args := by
  constructor
  · intro room few s
    obtain ⟨hr, hc⟩ := commonExtent_pos bound
    obtain ⟨g, made, -⟩ := Grid.filled_shows (.scalar s) hr hc few
    exact ⟨g, made⟩
  · intro args' same
    obtain ⟨bound', complete', related⟩ := Signature.exists_bind_of_rel .kept same complete
    simp only [invoke, invokeBy, same.length_eq, complete, complete',
      apply_of_replicates every related]

/-- Beside a column one text may be given in a grid of its own, and another one as a column. Where
all operands are scalars, texts in grids of their own still leave the call on the plain course. -/
theorem invoke_replicated_kinds :
    let s : Signature := ⟨"H", [.required "a", .required "b", .required "c"], .every, rfl, rfl⟩
    let call := invoke ⟨s, GenericRule.kinds.rule, none⟩ .standard
    let column : Value := .grid (Place.above (.scalar (.text "u")) (.fault .ref))
    let lone : Value := .grid (Place.alone (.scalar (.text "x")))
    ∃ filled, Grid.filled Grid.capacity ⟨2, 1⟩ (.text "y") = .ok filled ∧
      call [some column, some lone, some (.grid filled)] =
        call [some column, some (.text "x"), some (.text "y")] ∧
      call [some .blank, some lone, some lone] =
        call [some .blank, some (.text "x"), some (.text "x")] := by
  intro s call column lone
  let f : SheetFunction := ⟨s, GenericRule.kinds.rule, none⟩
  have complete (a b c : Value) : f.signature.bind [some a, some b, some c] = some [a, b, c] := rfl
  obtain ⟨grids, across⟩ :=
    invoke_replicated f .standard rfl (complete column (.text "x") (.text "y"))
  obtain ⟨-, plain⟩ := invoke_replicated f .standard rfl (complete .blank (.text "x") (.text "x"))
  obtain ⟨filled, made⟩ := grids Grid.capacity (by decide) (.text "y")
  have kept (v : Value) (e : Extent) : Option.Rel (Value.Replicates e) (some v) (some v) :=
    .some (.kept v)
  have single (e : Extent) : Option.Rel (Value.Replicates e) (some (.text "x")) (some lone) :=
    .some (.single rfl rfl)
  exact ⟨filled, made,
    across _ (.cons (kept _ _) (.cons (single _) (.cons (.some (.filled made)) .nil))),
    plain _ (.cons (kept _ _) (.cons (single _) (.cons (single _) .nil)))⟩

end SheetFunction

end Worksheet
