import Worksheet.Engine
import Worksheet.Proofs.Alignment
import Worksheet.Proofs.Signature

/-! The courses of a call. Each call takes one of six, and its outcome is read off the course. On
the way across cells the outcome is a grid of the common extent, which holds at each place what the
cell rule makes of the items that the arguments show there. -/

namespace Worksheet

namespace Signature

theorem map_unwrapDriving {α : Type} {f : Value → α} (same : ∀ v, f v.unwrap = f v) (s : Signature)
    (bound : List Value) : (s.unwrapDriving bound).map f = bound.map f := by
  refine List.ext_getElem? fun i => ?_
  rw [List.getElem?_map, List.getElem?_map, s.getElem?_unwrapDriving, Option.map_map]
  refine Option.map_congr fun v _ => ?_
  by_cases drives : s.drive.drives i = true <;> simp [drives, same]

theorem commonExtent_unwrapDriving (s : Signature) (bound : List Value) :
    commonExtent (s.unwrapDriving bound) = commonExtent bound :=
  commonExtent_eq_of_map_extent (s.map_unwrapDriving Value.extent_unwrap bound)

theorem alignedAt_unwrapDriving (s : Signature) (mode : Stretch) (r c : Nat) (bound : List Value) :
    alignedAt mode r c (s.unwrapDriving bound) = alignedAt mode r c bound :=
  s.map_unwrapDriving (fun v => congrArg Value.item (v.cellAt_unwrap r c)) bound

end Signature

namespace SheetFunction

variable {f : SheetFunction} {settings : Settings} {args : List (Option Value)}
  {bound : List Value}

theorem maker_of_allows {e : Extent} (allowed : settings.allows e = true) :
    settings.maker e = Grid.build e :=
  Grid.make_of_isWithin allowed

theorem acrossCells_of_allows (allowed : settings.allows (commonExtent bound) = true) :
    f.acrossCellsBy settings.maker settings bound =
      (Grid.build (commonExtent bound) fun r c =>
        f.cellRule (alignedAt settings.stretch r c bound)).map .grid := by
  obtain ⟨grids, spread, shows⟩ :=
    spreadAll_shows .notAvailable settings.stretch fun v (_ : v ∈ bound) => .inr allowed
  have cells : ∀ r c, r < (commonExtent bound).rows → c < (commonExtent bound).cols →
      grids.mapM (fun g => (g.get r c).map Value.item) =
        .ok (alignedAt settings.stretch r c bound) := by
    intro r c hr hc
    rw [mapM_eq_ok_iff, alignedAt, List.forall₂_map_right_iff]
    refine shows.flip.imp fun g v here => ?_
    rw [(g.get_eq_ok_iff r c _).2 (here.get? hr hc)]
    rfl
  have rule : (Grid.build (commonExtent bound) fun r c => do
        f.cellRule (← grids.mapM fun g => (g.get r c).map Value.item)) =
      Grid.build (commonExtent bound) fun r c =>
        f.cellRule (alignedAt settings.stretch r c bound) := by
    refine Grid.build_congr fun r c hr hc => ?_
    rw [cells r c hr hc]
    rfl
  change spreadAllBy settings.maker bound .notAvailable settings.stretch = .ok grids at spread
  simp only [acrossCellsBy, if_pos allowed, spread, maker_of_allows allowed]
  change (Grid.build (commonExtent bound) _ >>= fun answer => pure (Value.grid answer)) = _
  rw [rule]
  cases Grid.build (commonExtent bound) _ <;> rfl

theorem acrossCells_of_not_allows (make : Maker)
    (refused : settings.allows (commonExtent bound) = false) :
    f.acrossCellsBy make settings bound = .ok (.fault .spill) := by
  simp only [acrossCellsBy, refused]
  rfl

/-- Across cells only the common extent and the items shown within it are seen. -/
theorem acrossCells_congr {bound' : List Value} (extent : commonExtent bound = commonExtent bound')
    (cells : ∀ r c, r < (commonExtent bound').rows → c < (commonExtent bound').cols →
      alignedAt settings.stretch r c bound = alignedAt settings.stretch r c bound') :
    f.acrossCellsBy settings.maker settings bound =
      f.acrossCellsBy settings.maker settings bound' := by
  cases allowed : settings.allows (commonExtent bound') with
  | false =>
    rw [acrossCells_of_not_allows _ allowed, acrossCells_of_not_allows _ (extent ▸ allowed)]
  | true =>
    rw [acrossCells_of_allows allowed, acrossCells_of_allows (extent ▸ allowed), extent,
      Grid.build_congr fun r c hr hc => congrArg f.cellRule (cells r c hr hc)]

/-- The courses that a call may take, each with its outcome. -/
inductive Course (f : SheetFunction) (settings : Settings) (args : List (Option Value)) :
    Except CallError Value → Prop
  | surplus (h : f.signature.most < args.length) :
    Course f settings args (.error (.argumentCount f.signature.name f.signature.least
      f.signature.most args.length))
  | incomplete (arity : args.length ≤ f.signature.most) (h : f.signature.bind args = none) :
    Course f settings args (.ok .notAvailable)
  | failed {bound : List Value} {e : Failure} (arity : args.length ≤ f.signature.most)
    (complete : f.signature.bind args = some bound)
    (h : f.signature.eagerFailure? bound = some e) :
    Course f settings args (.ok (.failure e))
  | spilled {bound : List Value} (h : f.signature.Admits args bound)
    (driven : f.signature.isDriven (f.signature.unwrapDriving bound) = true)
    (refused : settings.allows (commonExtent (f.signature.unwrapDriving bound)) = false) :
    Course f settings args (.ok (.fault .spill))
  | cellwise {bound : List Value} (h : f.signature.Admits args bound)
    (driven : f.signature.isDriven (f.signature.unwrapDriving bound) = true)
    (allowed : settings.allows (commonExtent (f.signature.unwrapDriving bound)) = true) :
    Course f settings args (((Grid.build (commonExtent (f.signature.unwrapDriving bound)) fun r c =>
      f.cellRule (alignedAt settings.stretch r c (f.signature.unwrapDriving bound))).map
        Value.grid).mapError .breach)
  | plain {bound : List Value} (h : f.signature.Admits args bound)
    (undriven : f.signature.isDriven (f.signature.unwrapDriving bound) = false) :
    Course f settings args ((f.scalarRule (f.signature.unwrapDriving bound)).mapError .breach)

theorem invoke_of_admits (h : f.signature.Admits args bound) :
    f.invoke settings args =
      (if f.signature.isDriven (f.signature.unwrapDriving bound) then
        f.acrossCellsBy settings.maker settings (f.signature.unwrapDriving bound)
      else f.scalarRule (f.signature.unwrapDriving bound)).mapError .breach := by
  have arity : ¬ f.signature.most < args.length := Nat.not_lt.2 h.arity
  simp only [invoke, invokeBy, if_neg arity, h.complete, applyBy, h.clean]

theorem invoke_of_course {out : Except CallError Value} (h : f.Course settings args out) :
    f.invoke settings args = out := by
  cases h with
  | surplus h => exact if_pos h
  | incomplete arity h => simp only [invoke, invokeBy, if_neg (Nat.not_lt.2 arity), h]
  | failed arity complete h =>
    simp only [invoke, invokeBy, if_neg (Nat.not_lt.2 arity), complete, applyBy, h]
    rfl
  | spilled h driven refused =>
    rw [invoke_of_admits h, if_pos driven, acrossCells_of_not_allows _ refused]
    rfl
  | cellwise h driven allowed =>
    rw [invoke_of_admits h, if_pos driven, acrossCells_of_allows allowed]
  | plain h undriven =>
    rw [invoke_of_admits h, undriven]
    rfl

theorem exists_course (f : SheetFunction) (settings : Settings) (args : List (Option Value)) :
    ∃ out, f.Course settings args out := by
  by_cases surplus : f.signature.most < args.length
  · exact ⟨_, .surplus surplus⟩
  have arity := Nat.not_lt.1 surplus
  cases complete : f.signature.bind args with
  | none => exact ⟨_, .incomplete arity complete⟩
  | some bound =>
    cases clean : f.signature.eagerFailure? bound with
    | some e => exact ⟨_, .failed arity complete clean⟩
    | none =>
      have admits : f.signature.Admits args bound := ⟨arity, complete, clean⟩
      cases driven : f.signature.isDriven (f.signature.unwrapDriving bound) with
      | false => exact ⟨_, .plain admits driven⟩
      | true =>
        cases allowed : settings.allows (commonExtent (f.signature.unwrapDriving bound)) with
        | true => exact ⟨_, .cellwise admits driven allowed⟩
        | false => exact ⟨_, .spilled admits driven allowed⟩

theorem invoke_eq_iff {out : Except CallError Value} :
    f.invoke settings args = out ↔ f.Course settings args out := by
  constructor
  · rintro rfl
    obtain ⟨out, taken⟩ := exists_course f settings args
    exact (invoke_of_course taken).symm ▸ taken
  · exact invoke_of_course

end SheetFunction

end Worksheet
