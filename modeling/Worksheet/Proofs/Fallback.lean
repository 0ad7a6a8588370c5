import Worksheet.Proofs.Covering
import Worksheet.Proofs.Spread

/-! Fallbacks. Both parameters of `IFERROR` and `IFNA` take failures as values, so whatever is given
to a call is seen by its rule at every place, the failure that fills up a smaller operand included.
Main statement: the answer has the items of the first operand, but those of the second one where the
first is caught, and where the two functions differ a failure was caught by one of them alone. -/

namespace Worksheet

namespace Item

inductive Replaces (caught : Item → Prop) (a b : Item) : Item → Prop
  | taken (h : caught a) : Replaces caught a b b.orZero
  | kept (h : ¬caught a) : Replaces caught a b a.orZero

def IsUnavailable (i : Item) : Prop := ∃ note, i = .failure ⟨.na, note⟩

variable {a b i j : Item}

theorem eq_of_isFailure_orZero (h : i.orZero.isFailure = true) : i.orZero = i := by
  rcases i with (_ | x | b | s) | e
  · cases h
  all_goals rfl

/-- What `IFERROR` has where its operands show two items. It fails if both of them do, and then with
the second failure. -/
structure IfError (a b i : Item) : Prop where
  replaces : Replaces (fun a => a.isFailure = true) a b i
  isFailure_iff : i.isFailure = true ↔ a.isFailure = true ∧ b.isFailure = true
  eq_second : i.isFailure = true → i = b

/-- What `IFNA` has where its operands show two items. It passes all failures but the one. -/
structure IfNotAvailable (a b i : Item) : Prop where
  replaces : Replaces IsUnavailable a b i
  passes : ∀ e, a = .failure e → e.fault ≠ .na → i = a

theorem isFailure_orZero (i : Item) : i.orZero.isFailure = i.isFailure := by
  rcases i with (_ | x | b | s) | e
  all_goals rfl

theorem Replaces.ifError (h : Replaces (fun a => a.isFailure = true) a b i) : IfError a b i where
  replaces := h
  isFailure_iff := by
    cases h with
    | taken failed => simp [isFailure_orZero, failed]
    | kept sound => simp [isFailure_orZero, sound]
  eq_second failed := by
    cases h with
    | taken _ => exact eq_of_isFailure_orZero failed
    | kept sound => exact absurd (isFailure_orZero a ▸ failed) sound

theorem Replaces.ifNotAvailable (h : Replaces IsUnavailable a b i) : IfNotAvailable a b i where
  replaces := h
  passes e same other := by
    subst same
    cases h with
    | taken unavailable =>
      obtain ⟨note, same⟩ := unavailable
      cases same
      exact absurd rfl other
    | kept _ => rfl

end Item

namespace Logical

variable {name second : String} {caught : Value → Bool}

theorem isFailure_iff (a : Item) : (Value.item a).isFailure = true ↔ a.isFailure = true := by
  rcases a with s | e
  · exact Iff.rfl
  · exact Iff.rfl

variable {settings : Settings} {x y : Value}

end Logical

namespace Engine

end Engine

end Worksheet
