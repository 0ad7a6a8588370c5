import Worksheet.Function.Generic
import Worksheet.Proofs.Call

/-! What the cell rule of a function is given. Across cells it meets items alone, one for each
parameter. It is also the rule of the plain course when a function has no other for it, and there a
grid may stand at a parameter that does not drive: this is the only way in which a grid reaches it.
-/

namespace Worksheet

def Rule.AgreeOnItems (n : Nat) (rule rule' : Rule) : Prop :=
  ∀ xs : List Value, xs.length = n → (∀ v ∈ xs, v.isGrid = false) → rule xs = rule' xs

namespace Signature

/-- No grid drives the call, and one is bound all the same. -/
def KeepsGrid (s : Signature) (args : List (Option Value)) : Prop :=
  ∃ bound, s.Admits args bound ∧ s.isDriven (s.unwrapDriving bound) = false ∧
    ∃ v ∈ s.unwrapDriving bound, v.isGrid = true

theorem KeepsGrid.exists_only {s : Signature} {args : List (Option Value)} (h : s.KeepsGrid args) :
    ∃ i, s.drive = .only i := by
  obtain ⟨bound, -, undriven, v, hv, isGrid⟩ := h
  cases drive : s.drive with
  | only i => exact ⟨i, rfl⟩
  | every =>
    rw [s.isGrid_of_undriven drive undriven hv] at isGrid
    cases isGrid

end Signature

namespace SheetFunction

variable {s : Signature} {scalarRule? : Option Rule} {settings : Settings}
  {args : List (Option Value)} {rule rule' : Rule}

theorem invoke_congr
    (cells : ∀ bound, s.Admits args bound → ∀ r c,
      rule (alignedAt settings.stretch r c (s.unwrapDriving bound)) =
        rule' (alignedAt settings.stretch r c (s.unwrapDriving bound)))
    (plain : ∀ bound, s.Admits args bound → s.isDriven (s.unwrapDriving bound) = false →
      scalarRule?.getD rule (s.unwrapDriving bound) =
        scalarRule?.getD rule' (s.unwrapDriving bound)) :
    SheetFunction.invoke ⟨s, rule, scalarRule?⟩ settings args =
      SheetFunction.invoke ⟨s, rule', scalarRule?⟩ settings args := by
  obtain ⟨out, taken⟩ := exists_course ⟨s, rule', scalarRule?⟩ settings args
  rw [invoke_of_course taken, invoke_eq_iff]
  cases taken with
  | surplus h => exact .surplus h
  | incomplete arity h => exact .incomplete arity h
  | failed arity complete h => exact .failed arity complete h
  | spilled h driven refused => exact .spilled h driven refused
  | @cellwise bound h driven allowed =>
    have same : (fun r c => rule (alignedAt settings.stretch r c (s.unwrapDriving bound))) =
        fun r c => rule' (alignedAt settings.stretch r c (s.unwrapDriving bound)) := by
      funext r c
      exact cells bound h r c
    have taken : Course ⟨s, rule, scalarRule?⟩ settings args _ := .cellwise h driven allowed
    simp only [same] at taken
    exact taken
  | @plain bound h undriven =>
    have taken : Course ⟨s, rule, scalarRule?⟩ settings args _ := .plain h undriven
    simp only [scalarRule, plain bound h undriven] at taken
    exact taken

def noticesGrid : Rule := fun xs => .ok (.logical (xs.any Value.isGrid))

theorem noticesGrid_agrees (n : Nat) :
    Rule.AgreeOnItems n noticesGrid fun _ => .ok (.logical false) := by
  intro xs _ items
  have none : xs.any Value.isGrid = false := by
    rw [List.any_eq_false]
    intro v hv isGrid
    rw [items v hv] at isGrid
    cases isGrid
  rw [noticesGrid, none]

/-- A call sees of the cell rule only its answers for items, one for each parameter, unless it
keeps a grid and there is no other rule for the plain course. -/
theorem invoke_agrees_iff (s : Signature) (scalarRule? : Option Rule) (settings : Settings)
    (args : List (Option Value)) :
    ((∀ rule rule' : Rule, Rule.AgreeOnItems s.params.length rule rule' →
      SheetFunction.invoke ⟨s, rule, scalarRule?⟩ settings args =
        SheetFunction.invoke ⟨s, rule', scalarRule?⟩ settings args) ↔
      ¬(scalarRule? = none ∧ s.KeepsGrid args)) ∧
    (s.KeepsGrid args → ∃ i, s.drive = .only i) := by
  refine ⟨⟨?_, ?_⟩, Signature.KeepsGrid.exists_only⟩
  · rintro alike ⟨rfl, bound, admits, undriven, v, hv, isGrid⟩
    have told := alike _ _ (noticesGrid_agrees s.params.length)
    have any : (s.unwrapDriving bound).any Value.isGrid = true :=
      List.any_eq_true.2 ⟨v, hv, isGrid⟩
    rw [invoke_of_course (.plain admits undriven),
      invoke_of_course (.plain admits undriven)] at told
    simp [scalarRule, noticesGrid, any, Except.mapError] at told
  · intro kept rule rule' agree
    have length : ∀ bound, s.Admits args bound →
        (s.unwrapDriving bound).length = s.params.length := fun bound admits => by
      rw [Signature.length_unwrapDriving, admits.length_eq]
    refine invoke_congr (fun bound admits r c => ?_) fun bound admits undriven => ?_
    · refine agree _ ?_ fun v hv => isGrid_of_mem_alignedAt hv
      rw [length_alignedAt, length bound admits]
    · cases scalarRule? with
      | some other => rfl
      | none =>
        refine agree _ (length bound admits) fun v hv => ?_
        cases isGrid : v.isGrid with
        | false => rfl
        | true => exact absurd ⟨rfl, bound, admits, undriven, v, hv, isGrid⟩ kept

/-- Driven by its first parameter alone, the rule that names the kinds of its arguments is given the
grid at the second one. The same rule after every grid has given way to its first item agrees with
it on items, and answers otherwise. -/
theorem kinds_meets_grid :
    let s : Signature := ⟨"H", [.required "a", .required "b"], .only 0, rfl, rfl⟩
    let ofItems : Rule := fun xs => GenericRule.kinds.rule (xs.map fun v => .item v.toItem)
    let args : List (Option Value) := [some (.logical true),
      some (.grid (Place.beside (.scalar (.text "b")) (.scalar (.text "c"))))]
    Rule.AgreeOnItems s.params.length GenericRule.kinds.rule ofItems ∧
      invoke ⟨s, GenericRule.kinds.rule, none⟩ .standard args = .ok (.text "ba") ∧
      invoke ⟨s, ofItems, none⟩ .standard args = .ok (.text "bs") := by
  refine ⟨?_, rfl, rfl⟩
  intro xs _ items
  have same : xs.map (fun v => Value.item v.toItem) = xs := by
    rw [← Value.map_toItem items, List.map_map]
    rfl
  simp only [same]

end SheetFunction

end Worksheet
