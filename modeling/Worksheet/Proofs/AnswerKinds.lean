import Worksheet.Proofs.Covering
import Worksheet.Proofs.Totality

/-! The kinds of answers. A call of a function that every parameter drives either ends before its
rule is asked, or has answers of the rule at all places. So what its rule never gives, and is no
failure, cannot be met in any answer. Main statement: whatever their operands, the numeric functions
give finite numbers, `NOT` and the predicates truth, and the fallbacks no blank, or else failures.
-/

namespace Worksheet

open Value

namespace Item

inductive IsNumeric : Item → Prop
  | failure (e : Failure) : IsNumeric (.failure e)
  | number {x : Float} (finite : x.isFinite = true) : IsNumeric (.scalar (.number x))

inductive IsLogical : Item → Prop
  | logical (b : Bool) : IsLogical (.scalar (.logical b))

inductive IsTruth : Item → Prop
  | failure (e : Failure) : IsTruth (.failure e)
  | logical (b : Bool) : IsTruth (.scalar (.logical b))

end Item

namespace Elementwise

variable {f : SheetFunction} {settings : Settings} {args : List (Option Value)} {v : Value}
  {P : Item → Prop}

/-- Either a call ends early, for one of three reasons, or all of its answer is made by the rule. -/
theorem Ruled.each_of_invoke (ruled : Ruled f) (every : f.signature.drive = .every)
    (rule : ∀ vs i, f.cellRule vs = .ok (.item i) → P i) (arity : args.length ≤ f.signature.most)
    (answer : f.invoke settings args = .ok v) :
    v.Each P ∨ v = fault .spill ∨
      (∃ bound e, f.signature.bind args = some bound ∧ f.signature.eagerFailure? bound = some e ∧
        v = failure e) ∨
      f.signature.bind args = none ∧ v = notAvailable := by
  cases complete : f.signature.bind args with
  | none =>
    rw [SheetFunction.invoke_of_course (.incomplete arity complete)] at answer
    cases answer
    exact .inr (.inr (.inr ⟨rfl, rfl⟩))
  | some bound =>
    cases clean : f.signature.eagerFailure? bound with
    | some e =>
      rw [SheetFunction.invoke_of_course (.failed arity complete clean)] at answer
      cases answer
      exact .inr (.inr (.inl ⟨bound, e, rfl, clean, rfl⟩))
    | none =>
      have admits : f.signature.Admits args bound := ⟨arity, complete, clean⟩
      by_cases refused : settings.Refuses (commonExtent bound)
      · rw [invoke_of_refuses every admits refused] at answer
        cases answer
        exact .inr (.inl rfl)
      · obtain ⟨w, answer', covers⟩ := ruled.invoke_covers every admits refused
        cases answer.symm.trans answer'
        exact .inl (covers.each fun r c i => rule _ i)

theorem Ruled.each_of_failures (ruled : Ruled f) (every : f.signature.drive = .every)
    (rule : ∀ vs i, f.cellRule vs = .ok (.item i) → P i) (failures : ∀ e, P (.failure e))
    (arity : args.length ≤ f.signature.most) (answer : f.invoke settings args = .ok v) :
    v.Each P := by
  rcases ruled.each_of_invoke every rule arity answer with
    each | rfl | ⟨bound, e, -, -, rfl⟩ | ⟨-, rfl⟩
  · exact each
  · exact each_item.2 (failures _)
  · exact each_item.2 (failures _)
  · exact each_item.2 (failures _)

end Elementwise

namespace Arithmetic

theorem isNumeric_finite (x : Float) : (finite x).toItem.IsNumeric := by
  unfold finite
  split
  · rename_i h
    exact .number h
  · exact .failure _

theorem isNumeric_modulo (x y : Float) : (modulo x y).toItem.IsNumeric := by
  unfold modulo
  split
  · exact .failure _
  · exact isNumeric_finite _

theorem isNumeric_of_onNumbers {body : List Float → Except Breach Value} {vs : List Value}
    {v : Value} (numeric : ∀ xs v, body xs = .ok v → v.toItem.IsNumeric)
    (answer : onNumbers body vs = .ok v) : v.toItem.IsNumeric := by
  unfold onNumbers at answer
  split at answer
  · exact numeric _ v answer
  · cases answer
    exact .failure _

theorem isNumeric_of_unary {name : String} {f : Float → Float} {vs : List Value} {v : Value}
    (answer : (unary name f).cellRule vs = .ok v) : v.toItem.IsNumeric := by
  refine isNumeric_of_onNumbers (fun xs v made => ?_) answer
  obtain ⟨x, -, made⟩ := bind_eq_ok_iff.1 made
  cases made
  exact isNumeric_finite _

theorem isNumeric_of_binary {name : String} {second : Parameter}
    {h : requiredFirst [.required "number", second] = true} {made : Float → Float → Value}
    {vs : List Value} {v : Value} (numeric : ∀ x y, (made x y).toItem.IsNumeric) {i j : Nat}
    (answer : (binary name second (onNumbers fun xs => do
      return made (← operand xs i) (← operand xs j)) h).cellRule vs = .ok v) :
    v.toItem.IsNumeric := by
  refine isNumeric_of_onNumbers (fun xs v made => ?_) answer
  obtain ⟨x, -, made⟩ := bind_eq_ok_iff.1 made
  obtain ⟨y, -, made⟩ := bind_eq_ok_iff.1 made
  cases made
  exact numeric x y

theorem isNumeric_of_mem {f : SheetFunction} {vs : List Value} {v : Value} (h : f ∈ functions)
    (answer : f.cellRule vs = .ok v) : v.toItem.IsNumeric := by
  simp only [functions, List.mem_cons, List.not_mem_nil, or_false] at h
  rcases h with rfl | rfl | rfl | rfl | rfl | rfl
  · exact isNumeric_of_unary answer
  · exact isNumeric_of_unary answer
  · exact isNumeric_of_unary answer
  · exact isNumeric_of_binary (fun x y => isNumeric_finite (roundTo x (placesOf y))) answer
  · exact isNumeric_of_binary (fun y x => isNumeric_modulo x y) answer
  · exact isNumeric_of_binary (fun x y => isNumeric_finite (x.pow y)) answer

end Arithmetic

namespace Logical

theorem isTruth_of_negation {vs : List Value} {i : Item}
    (answer : negation.cellRule vs = .ok (.item i)) : i.IsTruth := by
  obtain ⟨a, -, answer⟩ := bind_eq_ok_iff.1 answer
  split at answer
  · cases answer
    exact .logical _
  · cases answer
    exact .failure _

theorem ne_blank_of_orZero {v : Value} {i : Item} (h : orZero v = .item i) : i ≠ .blank := by
  rintro rfl
  unfold orZero at h
  split at h
  · cases h
  · rename_i other
    rw [h] at other
    exact other rfl

theorem ne_blank_of_fallback {name second : String} {caught : Value → Bool} {vs : List Value}
    {i : Item} (answer : (fallback name second caught).cellRule vs = .ok (.item i)) :
    i ≠ .blank := by
  obtain ⟨a, -, answer⟩ := bind_eq_ok_iff.1 answer
  split at answer
  · obtain ⟨b, -, answer⟩ := bind_eq_ok_iff.1 answer
    exact ne_blank_of_orZero (Except.ok.inj answer)
  · exact ne_blank_of_orZero (Except.ok.inj answer)

end Logical

namespace Information

variable {name : String} {holds : Value → Bool} {args : List (Option Value)}

theorem isLogical_of_predicate {vs : List Value} {i : Item}
    (answer : (predicate name holds).cellRule vs = .ok (.item i)) : i.IsLogical := by
  obtain ⟨a, -, answer⟩ := bind_eq_ok_iff.1 answer
  cases answer
  exact .logical _

theorem eagerFailure?_predicate {bound : List Value}
    (length : bound.length = (predicate name holds).signature.params.length) :
    (predicate name holds).signature.eagerFailure? bound = none := by
  obtain ⟨a, rfl⟩ := List.length_eq_one_iff.1 length
  rfl

theorem omitted_of_bind_eq_none (arity : args.length ≤ (predicate name holds).signature.most)
    (h : (predicate name holds).signature.bind args = none) : ∀ x, some x ∉ args := by
  intro x given
  rcases args with _ | ⟨a, _ | ⟨b, rest⟩⟩
  · cases given
  · obtain rfl : some x = a := List.mem_singleton.1 given
    cases h
  · change rest.length + 2 ≤ 1 at arity
    omega

theorem each_of_invoke_predicate {settings : Settings} {v : Value}
    (arity : args.length ≤ (predicate name holds).signature.most)
    (answer : (predicate name holds).invoke settings args = .ok v) :
    v.Each Item.IsLogical ∨ v = fault .spill ∨ v = notAvailable ∧ ∀ x, some x ∉ args := by
  have ruled := Elementwise.ruled_predicate name holds
  rcases ruled.each_of_invoke rfl (fun vs i => isLogical_of_predicate) arity answer with
    each | spilled | ⟨bound, e, complete, failed, -⟩ | ⟨omitted, rfl⟩
  · exact .inl each
  · exact .inr (.inl spilled)
  · rw [eagerFailure?_predicate (Signature.length_bindParams complete)] at failed
    cases failed
  · exact .inr (.inr ⟨rfl, omitted_of_bind_eq_none arity omitted⟩)

end Information

/-- What there may be in the answer of a function, by its name. -/
structure AnswerKinds (name : String) (args : List (Option Value)) (v : Value) : Prop where
  numeric : name ∈ ["ABS", "SIGN", "INT", "ROUND", "MOD", "POWER"] → v.Each Item.IsNumeric
  negated : name = "NOT" → v.Each Item.IsTruth
  told : name ∈ ["ISBLANK", "ISERROR", "ISERR", "ISNA", "ISNUMBER", "ISTEXT", "ISLOGICAL"] →
    v.Each Item.IsLogical ∨ v = fault .spill ∨ v = notAvailable ∧ ∀ x, some x ∉ args
  filled : name ∈ ["IFERROR", "IFNA"] → v.Each fun i => i ≠ .blank

theorem Catalog.answerKinds_of_mem {f : SheetFunction} {settings : Settings}
    {args : List (Option Value)} {v : Value} (h : f ∈ standardFunctions)
    (arity : args.length ≤ f.signature.most) (answer : f.invoke settings args = .ok v) :
    AnswerKinds f.signature.name args v where
  numeric named := by
    have mem : f ∈ Arithmetic.functions :=
      Catalog.mem_of_name (List.subset_append_right _ _) h named
    have every : f.signature.drive = .every := by
      rcases Catalog.eq_conditional_or_every h with rfl | every
      · exact absurd named (by decide)
      · exact every
    exact (Elementwise.ruled_of_mem h every).each_of_failures every
      (fun vs i => Arithmetic.isNumeric_of_mem mem) .failure arity answer
  negated named := by
    have same : f = Logical.negation := Catalog.eq_of_mem_standardFunctions h (by
      simp [Catalog.standardFunctions, Logical.functions]) named
    subst same
    exact Elementwise.ruled_negation.each_of_failures rfl
      (fun vs i => Logical.isTruth_of_negation) .failure arity answer
  told named := by
    have mem : f ∈ Information.functions.dropLast := Catalog.mem_of_name (fun g hg =>
      List.mem_append_left _ (List.mem_append_right _ (List.dropLast_subset _ hg))) h named
    simp only [Information.functions, List.dropLast_cons_cons, List.dropLast_singleton,
      List.mem_cons, List.not_mem_nil, or_false] at mem
    rcases mem with rfl | rfl | rfl | rfl | rfl | rfl | rfl
    all_goals exact Information.each_of_invoke_predicate arity answer
  filled named := by
    have mem : f ∈ [Logical.ifError, Logical.ifNotAvailable] := Catalog.mem_of_name (by
      simp [Catalog.standardFunctions, Logical.functions]) h named
    have failures (e : Failure) : Item.failure e ≠ .blank := Item.noConfusion
    rcases List.mem_pair.1 mem with rfl | rfl
    · exact (Elementwise.ruled_fallback _ _ _).each_of_failures rfl
        (fun vs i => Logical.ne_blank_of_fallback) failures arity answer
    · exact (Elementwise.ruled_fallback _ _ _).each_of_failures rfl
        (fun vs i => Logical.ne_blank_of_fallback) failures arity answer

namespace Engine

/-- Whatever the settings and the operands, a call with no surplus arguments has an answer of the
kinds of its function, in which no number but a finite one is ever calculated. -/
theorem call_answerKinds (settings : Settings) {name : String} {f : SheetFunction}
    {args : List (Option Value)} (found : Catalog.standard.find? name = some f)
    (arity : args.length ≤ f.signature.most) :
    ∃ v, call ⟨.standard, settings⟩ name args = .ok v ∧ AnswerKinds (Text.upper name) args v := by
  obtain ⟨mem, named⟩ := Catalog.named_of_find?_standard found
  obtain ⟨v, answer⟩ := (Catalog.answering_of_mem mem).exists_invoke settings arity
  exact ⟨v, (call_standard found args).trans answer,
    named ▸ Catalog.answerKinds_of_mem mem arity answer⟩

def wordPower : List (Option Value) :=
  [some (.grid (Place.beside (.scalar (.text "nan")) (.failure ⟨.ref, some "note"⟩))),
    some (text "inf")]

theorem call_answerKinds_power :
    ∃ v, call ⟨.standard, .standard⟩ "POWER" wordPower = .ok v ∧ v.Each Item.IsNumeric := by
  have arity : wordPower.length ≤ Arithmetic.power.signature.most := by decide
  obtain ⟨v, answer, kinds⟩ := call_answerKinds .standard find?_power arity
  exact ⟨v, answer, kinds.numeric (by decide +kernel)⟩

end Engine

end Worksheet
