import Worksheet.Proofs.Call

/-! Answers of calls. `Answered` lists the ways in which a call comes to a value, so that a property
of answers is proved case by case, without going through the call again. Main statement: when the
rules of a function refuse nothing that a call gives them, every call has an answer that does not
bring more arguments than there are parameters. -/

namespace Worksheet

theorem mapError_eq_ok_iff {ε ε' α : Type} {f : ε → ε'} {x : Except ε α} {a : α} :
    x.mapError f = .ok a ↔ x = .ok a := by
  cases x <;> simp [Except.mapError]

theorem alignedAt_eq_map_item (mode : Stretch) (r c : Nat) (args : List Value) :
    alignedAt mode r c args = (args.map fun v => v.cellAt (.fault .na) mode r c).map .item := by
  rw [alignedAt, List.map_map]
  rfl

namespace SheetFunction

variable {f : SheetFunction} {settings : Settings} {args : List (Option Value)} {v : Value}

/-- The values that a call may come to, each with what the call has found by then. -/
inductive Answered (f : SheetFunction) (settings : Settings) (args : List (Option Value)) :
    Value → Prop
  | incomplete (h : f.signature.bind args = none) : Answered f settings args .notAvailable
  | failed {bound : List Value} {e : Failure} (complete : f.signature.bind args = some bound)
    (h : f.signature.eagerFailure? bound = some e) : Answered f settings args (.failure e)
  | spilled : Answered f settings args (.fault .spill)
  | cellwise {bound : List Value} {g : Grid} (h : f.signature.Admits args bound)
    (extent : g.extent = commonExtent (f.signature.unwrapDriving bound))
    (few : settings.allows g.extent = true)
    (places : ∀ r c, r < g.rows → c < g.cols → ∃ w, g.get? r c = some w.toItem ∧
      f.cellRule (alignedAt settings.stretch r c (f.signature.unwrapDriving bound)) = .ok w) :
    Answered f settings args (.grid g)
  | plain {bound : List Value} {v : Value} (h : f.signature.Admits args bound)
    (undriven : f.signature.isDriven (f.signature.unwrapDriving bound) = false)
    (rule : f.scalarRule (f.signature.unwrapDriving bound) = .ok v) : Answered f settings args v

theorem answered_of_invoke (answer : f.invoke settings args = .ok v) :
    f.Answered settings args v := by
  have taken := invoke_eq_iff.1 answer
  generalize out : (Except.ok v : Except CallError Value) = outcome at taken
  cases taken with
  | surplus h => cases out
  | incomplete arity h =>
    cases out
    exact .incomplete h
  | failed arity complete h =>
    cases out
    exact .failed complete h
  | spilled h driven refused =>
    cases out
    exact .spilled
  | @cellwise bound h driven allowed =>
    obtain ⟨g, built, rfl⟩ := map_eq_ok_iff.1 (mapError_eq_ok_iff.1 out.symm)
    have extent := Grid.extent_of_build built
    refine .cellwise h extent (extent ▸ allowed) fun r c hr hc => ?_
    have rows : g.rows = _ := congrArg Extent.rows extent
    have cols : g.cols = _ := congrArg Extent.cols extent
    obtain ⟨w, rule, here⟩ := Grid.get?_of_build built (rows ▸ hr) (cols ▸ hc)
    exact ⟨w, here, rule⟩
  | @plain bound h undriven => exact .plain h undriven (mapError_eq_ok_iff.1 out.symm)

/-- The rules of the function refuse nothing that a call gives them: an item for each parameter
across cells, and otherwise a value for each parameter with no grid that drives. -/
structure Answering (f : SheetFunction) : Prop where
  cells : ∀ xs : List Item, xs.length = f.signature.params.length →
    ∃ v, f.cellRule (xs.map .item) = .ok v
  plain : ∀ vs : List Value, vs.length = f.signature.params.length →
    f.signature.isDriven vs = false → ∃ v, f.scalarRule vs = .ok v

theorem Answering.exists_invoke (answering : f.Answering) (settings : Settings)
    (arity : args.length ≤ f.signature.most) : ∃ v, f.invoke settings args = .ok v := by
  obtain ⟨out, taken⟩ := exists_course f settings args
  rw [invoke_of_course taken]
  cases taken with
  | surplus h => exact absurd arity (Nat.not_le.2 h)
  | incomplete arity h => exact ⟨_, rfl⟩
  | failed arity complete h => exact ⟨_, rfl⟩
  | spilled h driven refused => exact ⟨_, rfl⟩
  | @cellwise bound h driven allowed =>
    have answers : ∀ r c, ∃ v, f.cellRule
        (alignedAt settings.stretch r c (f.signature.unwrapDriving bound)) = .ok v := by
      intro r c
      rw [alignedAt_eq_map_item]
      exact answering.cells _ (by rw [List.length_map, h.length_unwrapDriving])
    obtain ⟨hr, hc⟩ := commonExtent_pos (f.signature.unwrapDriving bound)
    obtain ⟨g, built⟩ := Grid.exists_build hr hc fun r c _ _ => answers r c
    exact ⟨.grid g, by rw [built]; rfl⟩
  | @plain bound h undriven =>
    obtain ⟨v, rule⟩ := answering.plain _ h.length_unwrapDriving undriven
    exact ⟨v, by rw [rule]; rfl⟩

end SheetFunction

end Worksheet
