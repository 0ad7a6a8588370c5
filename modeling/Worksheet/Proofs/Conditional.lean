import Worksheet.Proofs.Catalog

/-! `IF` and its condition. A failure in the condition or in the first branch ends the call before
the condition is unwrapped. Main statement: a condition in a grid of its own acts like the item in
it, but for a failure, which a failed first branch then goes before. -/

namespace Worksheet.Logical

open Value

def chosen (i : Item) (yes no : Value) : Value :=
  match i with
  | .failure e => failure e
  | .blank => notAvailable
  | .scalar s => if s.isTruthy then yes else no

theorem selection_item (i : Item) (yes no : Value) :
    selection [item i, yes, no] = .ok (chosen i yes no) := by
  have branch (i : Item) (b : Bool) :
      argument [item i, yes, no] (if b then 1 else 2) = .ok (if b then yes else no) := by
    cases b <;> rfl
  rcases i with (_ | x | b | s) | e
  · rfl
  · exact branch _ (Scalar.number x).isTruthy
  · exact branch _ (Scalar.logical b).isTruthy
  · exact branch _ (Scalar.text s).isTruthy
  · rfl

section Conditional

variable {settings : Settings} {test yes : Value} {no : Option Value}

theorem bind_conditional (test yes : Value) (no : Option Value) :
    conditional.signature.bind [some test, some yes, no] =
      some [test, yes, no.getD (logical false)] := by
  cases no <;> rfl

theorem eagerFailure?_conditional (test yes no : Value) :
    conditional.signature.eagerFailure? [test, yes, no] = test.failure?.or yes.failure? := by
  rcases test with (_ | e) | _ <;> rcases yes with (_ | e) | _ <;> rfl

theorem unwrapDriving_conditional (test yes no : Value) :
    conditional.signature.unwrapDriving [test, yes, no] = [test.unwrap, yes, no] := rfl

theorem isDriven_conditional (test yes no : Value) :
    conditional.signature.isDriven [test, yes, no] = test.isGrid := by
  rcases test with _ | _ <;> rfl

theorem conditional_failed {e : Failure} (h : test.failure?.or yes.failure? = some e) :
    conditional.invoke settings [some test, some yes, no] = .ok (failure e) := by
  refine SheetFunction.invoke_of_course (.failed ?_ (bind_conditional test yes no) ?_)
  · exact Nat.le_refl 3
  · rw [eagerFailure?_conditional, h]

theorem conditional_chosen {i : Item} (h : test.failure?.or yes.failure? = none)
    (unwrapped : test.unwrap = item i) :
    conditional.invoke settings [some test, some yes, no] =
      .ok (chosen i yes (no.getD (logical false))) := by
  have admits : conditional.signature.Admits [some test, some yes, no]
      [test, yes, no.getD (logical false)] :=
    ⟨Nat.le_refl 3, bind_conditional test yes no, by rw [eagerFailure?_conditional, h]⟩
  have undriven : conditional.signature.isDriven
      (conditional.signature.unwrapDriving [test, yes, no.getD (logical false)]) = false := by
    rw [unwrapDriving_conditional, isDriven_conditional, unwrapped]
    rfl
  have rule : conditional.scalarRule [item i, yes, no.getD (logical false)] =
      .ok (chosen i yes (no.getD (logical false))) := selection_item _ _ _
  rw [SheetFunction.invoke_of_course (.plain admits undriven), unwrapDriving_conditional,
    unwrapped, rule]
  rfl

end Conditional

theorem find?_conditional : Catalog.standard.find? "IF" = some conditional :=
  Catalog.find?_standard_iff.2 ⟨by simp [Catalog.standardFunctions, functions], by decide +kernel⟩

/-- A condition in a grid of its own gives what its item gives, unless it and the first branch are
different failures. Of two failures the grid gives that of the branch, and the item its own. -/
theorem conditional_single (settings : Settings) {test : Grid} (single : test.extent = .single)
    (yes : Value) (no : Option Value) :
    let call (c : Value) := Engine.call ⟨.standard, settings⟩ "IF" [some c, some yes, no]
    (call (.grid test) = call (.item test.first) ↔
      ∀ e e', test.first = .failure e → yes = failure e' → e = e') ∧
    (∀ e e', test.first = .failure e → yes = failure e' →
      call (.grid test) = .ok (failure e') ∧ call (.item test.first) = .ok (failure e)) := by
  intro call
  have invoked (c : Value) : call c = conditional.invoke settings [some c, some yes, no] :=
    Engine.call_standard find?_conditional _
  have unwrapped : (grid test).unwrap = item test.first :=
    if_pos (Extent.isSingle_iff.2 single)
  have both : ∀ e e', test.first = .failure e → yes = failure e' →
      call (.grid test) = .ok (failure e') ∧ call (.item test.first) = .ok (failure e) := by
    intro e e' he he'
    subst he'
    rw [invoked, invoked, he]
    exact ⟨conditional_failed rfl, conditional_failed rfl⟩
  refine ⟨⟨?_, ?_⟩, both⟩
  · intro same e e' he he'
    obtain ⟨ofGrid, ofItem⟩ := both e e' he he'
    rw [ofGrid, ofItem] at same
    cases same
    rfl
  · intro alike
    cases failed : yes.failure? with
    | some e' =>
      obtain rfl : yes = failure e' := by
        rcases yes with (s | e) | g <;> cases failed
        rfl
      cases first : test.first with
      | failure e =>
        obtain ⟨ofGrid, ofItem⟩ := both e e' first rfl
        rw [← first, ofGrid, ofItem, alike e e' first rfl]
      | scalar s =>
        rw [invoked, invoked, conditional_failed (e := e') rfl, conditional_failed (e := e') rfl]
    | none =>
      -- A failed condition ends the call when it stands alone, and is chosen when it was in a grid.
      rw [invoked, invoked, conditional_chosen (by rw [failed]; rfl) unwrapped]
      cases first : test.first with
      | failure e =>
        rw [conditional_failed (e := e) rfl]
        rfl
      | scalar s => rw [conditional_chosen (by rw [failed]; rfl) rfl]

theorem conditional_single_text :
    Engine.call ⟨.standard, .standard⟩ "IF"
        [some (.grid (Place.alone (.scalar (.text "x")))), some (fault .ref), none] =
      Engine.call ⟨.standard, .standard⟩ "IF" [some (text "x"), some (fault .ref), none] :=
  (conditional_single .standard rfl (fault .ref) none).1.2 fun e e' h => by cases h

/-- A failed condition in a grid of its own is not what the failed branch gives way to. -/
theorem conditional_single_ne :
    Engine.call ⟨.standard, .standard⟩ "IF"
        [some (.grid (Place.alone (.fault .divZero))), some (fault .ref), some (logical false)] ≠
      Engine.call ⟨.standard, .standard⟩ "IF"
        [some (fault .divZero), some (fault .ref), some (logical false)] := by
  rw [Engine.call_standard find?_conditional, Engine.call_standard find?_conditional]
  rw [conditional_failed (e := ⟨.ref, none⟩) rfl, conditional_failed (e := ⟨.divZero, none⟩) rfl]
  intro same
  cases same

end Worksheet.Logical
