import Worksheet.Proofs.Answer
import Worksheet.Proofs.Elementwise

/-! Where the failures in an answer come from. A rule passes failures when each one in its answer
stands in one of its arguments as it is, note included, or is one of the few without a note that
calculations issue themselves. Main statement: the standard functions pass failures, and so do the
calls that bind, unwrap, align and limit around them. -/

namespace Worksheet

/-- The failures that calculations issue: for a missing operand, for an operand or a number that is
of no use, for a division by zero, and for an answer of too many cells. -/
def Failure.IsIssued (e : Failure) : Prop :=
  e.note = none ∧ e.fault ∈ [Fault.na, .value, .num, .divZero, .spill]

namespace Value

def Carries (e : Failure) : Value → Prop
  | item i => i = .failure e
  | grid g => ∃ r c, g.get? r c = some (.failure e)

variable {e : Failure} {v : Value}

theorem carries_of_toItem (h : v.toItem = .failure e) : v.Carries e := by
  rcases v with i | g
  · exact h
  · exact ⟨0, 0, g.get?_zero.trans (congrArg some h)⟩

theorem carries_of_unwrap (h : v.unwrap.Carries e) : v.Carries e := by
  rcases v with i | g
  · exact h
  · rw [unwrap] at h
    split at h
    · exact carries_of_toItem h
    · exact h

theorem carries_of_cellAt {fill : Item} {mode : Stretch} {r c : Nat}
    (h : v.cellAt fill mode r c = .failure e) : fill = .failure e ∨ v.Carries e := by
  rcases v with i | g
  · exact .inr h
  · rw [cellAt] at h
    split at h
    · exact .inr (carries_of_toItem h)
    · cases here : g.get? (readAt mode g.rows r) (readAt mode g.cols c) with
      | none =>
        rw [here] at h
        exact .inl h
      | some i =>
        rw [here] at h
        exact .inr ⟨_, _, here.trans (congrArg some h)⟩

theorem issued_of_carries_fault {f : Fault} (issued : (⟨f, none⟩ : Failure).IsIssued)
    (h : (fault f).Carries e) : e.IsIssued := by
  cases h
  exact issued

end Value

/-- Each failure in an answer of the rule is issued or stands in an argument. -/
def Rule.Passes (rule : Rule) : Prop :=
  ∀ {vs : List Value} {v : Value} {e : Failure}, rule vs = .ok v → v.Carries e →
    e.IsIssued ∨ ∃ a ∈ vs, a.Carries e

theorem mem_of_argument {vs : List Value} {i : Nat} {v : Value} (h : argument vs i = .ok v) :
    v ∈ vs := by
  unfold argument at h
  split at h
  · rename_i here
    cases h
    exact List.mem_of_getElem? here
  · cases h

namespace SheetFunction

/-- Both rules pass failures, and the defaults bring none in. -/
structure Passing (f : SheetFunction) : Prop where
  cells : Rule.Passes f.cellRule
  plain : Rule.Passes f.scalarRule
  defaults : ∀ p ∈ f.signature.params, ∀ d, p.default? = some d → ∀ e, ¬d.Carries e

variable {f : SheetFunction} {settings : Settings} {args : List (Option Value)} {v : Value}
  {e : Failure}

theorem Passing.of_cellRule (single : f.scalarRule? = none) (cells : Rule.Passes f.cellRule)
    (defaults : ∀ p ∈ f.signature.params, ∀ d, p.default? = some d → ∀ e, ¬d.Carries e) :
    f.Passing where
  cells := cells
  plain := by
    rw [scalarRule, single]
    exact cells
  defaults := defaults

theorem Passing.of_bound (passing : f.Passing) {bound : List Value}
    (complete : f.signature.bind args = some bound) (h : ∃ v ∈ bound, v.Carries e) :
    ∃ a, some a ∈ args ∧ a.Carries e := by
  obtain ⟨v, hv, carried⟩ := h
  rcases Signature.exists_of_mem_bindParams complete hv with given | ⟨p, hp, default⟩
  · exact ⟨v, given, carried⟩
  · exact absurd carried (passing.defaults p hp v default e)

theorem exists_of_unwrapDriving {s : Signature} {bound : List Value}
    (h : ∃ w ∈ s.unwrapDriving bound, w.Carries e) : ∃ v ∈ bound, v.Carries e := by
  obtain ⟨w, hw, carried⟩ := h
  obtain ⟨v, hv, rfl | rfl⟩ := Signature.exists_of_mem_unwrapDriving hw
  · exact ⟨w, hv, carried⟩
  · exact ⟨v, hv, Value.carries_of_unwrap carried⟩

theorem exists_of_alignedAt {mode : Stretch} {r c : Nat} {vs : List Value}
    (h : ∃ w ∈ alignedAt mode r c vs, w.Carries e) :
    e.IsIssued ∨ ∃ v ∈ vs, v.Carries e := by
  obtain ⟨w, hw, carried⟩ := h
  obtain ⟨v, hv, rfl⟩ := List.mem_map.1 hw
  rcases Value.carries_of_cellAt carried with fill | shown
  · exact .inl (Value.issued_of_carries_fault ⟨rfl, by decide⟩ fill)
  · exact .inr ⟨v, hv, shown⟩

theorem Passing.invoke (passing : f.Passing) (answer : f.invoke settings args = .ok v)
    (carried : v.Carries e) : e.IsIssued ∨ ∃ a, some a ∈ args ∧ a.Carries e := by
  have course := answered_of_invoke answer
  cases course with
  | incomplete h => exact .inl (Value.issued_of_carries_fault ⟨rfl, by decide⟩ carried)
  | failed complete h =>
    exact .inr (passing.of_bound complete ⟨_, Signature.mem_of_eagerFailure? h, carried⟩)
  | spilled => exact .inl (Value.issued_of_carries_fault ⟨rfl, by decide⟩ carried)
  | @cellwise bound g h extent few places =>
    obtain ⟨r, c, here⟩ := carried
    have inside := (g.isSome_get? r c).1 (by rw [here]; rfl)
    obtain ⟨w, shown, rule⟩ := places r c inside.1 inside.2
    have item : w.toItem = .failure e := Option.some.inj (shown.symm.trans here)
    rcases passing.cells rule (Value.carries_of_toItem item) with issued | aligned
    · exact .inl issued
    · rcases exists_of_alignedAt aligned with issued | operand
      · exact .inl issued
      · exact .inr (passing.of_bound h.complete (exists_of_unwrapDriving operand))
  | @plain bound _ h undriven rule =>
    rcases passing.plain rule carried with issued | operand
    · exact .inl issued
    · exact .inr (passing.of_bound h.complete (exists_of_unwrapDriving operand))

theorem passing_constant (name : String) {i : Item} (issued : ∀ e, i = .failure e → e.IsIssued) :
    (constant name (.item i)).Passing := by
  refine .of_cellRule rfl ?_ (by simp [constant])
  intro vs v e answer carried
  cases answer
  exact .inl (issued e carried)

end SheetFunction

theorem Information.passing_predicate (name : String) (holds : Value → Bool) :
    (predicate name holds).Passing := by
  refine .of_cellRule rfl ?_ (by simp [predicate, Parameter.required, Parameter.lazy])
  intro vs v e answer carried
  obtain ⟨a, -, answer⟩ := bind_eq_ok_iff.1 answer
  cases answer
  cases carried

namespace Logical

theorem carries_of_orZero {v : Value} {e : Failure} (h : (orZero v).Carries e) : v.Carries e := by
  unfold orZero at h
  split at h
  · cases h
  · exact h

theorem passing_fallback (name second : String) (caught : Value → Bool) :
    (fallback name second caught).Passing := by
  refine .of_cellRule rfl ?_ (by simp [fallback, Parameter.required, Parameter.lazy])
  intro vs v e answer carried
  obtain ⟨a, first, answer⟩ := bind_eq_ok_iff.1 answer
  split at answer
  · obtain ⟨b, second, answer⟩ := bind_eq_ok_iff.1 answer
    cases answer
    exact .inr ⟨b, mem_of_argument second, carries_of_orZero carried⟩
  · cases answer
    exact .inr ⟨a, mem_of_argument first, carries_of_orZero carried⟩

theorem truth_eq_error {i : Item} {e : Failure} (h : truth i = .error e) :
    i = .failure e ∨ e = ⟨.value, none⟩ := by
  rcases i with (_ | x | b | s) | e'
  · cases h
  · cases h
  · cases h
  · simp only [truth] at h
    split at h
    · cases h
    · split at h
      · cases h
      · cases h
        exact .inr rfl
  · cases h
    exact .inl rfl

theorem passing_negation : negation.Passing := by
  refine .of_cellRule rfl ?_ (by simp [negation, Parameter.required])
  intro vs v e answer carried
  obtain ⟨a, first, answer⟩ := bind_eq_ok_iff.1 answer
  split at answer
  · cases answer
    cases carried
  · rename_i e' failed
    cases answer
    cases carried
    rcases truth_eq_error failed with operand | rfl
    · exact .inr ⟨a, mem_of_argument first, Value.carries_of_toItem operand⟩
    · exact .inl ⟨rfl, by decide⟩

theorem passes_selection : Rule.Passes selection := by
  intro vs v e answer carried
  obtain ⟨test, first, answer⟩ := bind_eq_ok_iff.1 answer
  split at answer
  · cases answer
    exact .inr ⟨_, mem_of_argument first, carried⟩
  · cases answer
    exact .inl (Value.issued_of_carries_fault ⟨rfl, by decide⟩ carried)
  · exact .inr ⟨v, mem_of_argument answer, carried⟩
  · exact .inr ⟨v, mem_of_argument answer, carried⟩

theorem passing_conditional : conditional.Passing where
  cells := by
    intro vs v e answer carried
    obtain ⟨w, selected, rfl⟩ := map_eq_ok_iff.1 answer
    split at carried
    · exact .inl (Value.issued_of_carries_fault ⟨rfl, by decide⟩ carried)
    · exact passes_selection selected carried
  plain := passes_selection
  defaults := by
    intro p hp d default e carried
    simp only [conditional, List.mem_cons, List.not_mem_nil, or_false] at hp
    rcases hp with rfl | rfl | rfl
    · cases default
    · cases default
    · cases default
      cases carried

end Logical

namespace Arithmetic

theorem number?_eq_error {i : Item} {e : Failure} (h : number? i = .error e) :
    i = .failure e ∨ e = ⟨.value, none⟩ := by
  rcases i with s | e'
  · simp only [number?] at h
    split at h
    · cases h
    · rename_i f unread
      cases h
      rcases s with _ | x | b | t
      · cases unread
      · cases unread
      · cases unread
      · simp only [Scalar.toNumber] at unread
        split at unread
        · cases unread
        · cases unread
          exact .inr rfl
  · cases h
    exact .inl rfl

theorem numbers_eq_error {vs : List Value} {e : Failure} (h : numbers vs = .error e) :
    e.IsIssued ∨ ∃ a ∈ vs, a.Carries e := by
  obtain ⟨a, ha, unread⟩ := exists_of_mapM_eq_error h
  rcases number?_eq_error unread with operand | rfl
  · exact .inr ⟨a, ha, Value.carries_of_toItem operand⟩
  · exact .inl ⟨rfl, by decide⟩

theorem issued_of_finite {x : Float} {e : Failure} (h : (finite x).Carries e) : e.IsIssued := by
  unfold finite at h
  split at h
  · cases h
  · exact Value.issued_of_carries_fault ⟨rfl, by decide⟩ h

theorem issued_of_modulo {x y : Float} {e : Failure} (h : (modulo x y).Carries e) :
    e.IsIssued := by
  unfold modulo at h
  split at h
  · exact Value.issued_of_carries_fault ⟨rfl, by decide⟩ h
  · exact issued_of_finite h

theorem passes_onNumbers {body : List Float → Except Breach Value}
    (issued : ∀ xs v e, body xs = .ok v → v.Carries e → e.IsIssued) :
    Rule.Passes (onNumbers body) := by
  intro vs v e answer carried
  unfold onNumbers at answer
  split at answer
  · exact .inl (issued _ v e answer carried)
  · rename_i e' failed
    cases answer
    cases carried
    exact numbers_eq_error failed

theorem passing_unary (name : String) (f : Float → Float) : (unary name f).Passing := by
  refine .of_cellRule rfl (passes_onNumbers ?_) (by simp [unary, Parameter.required])
  intro xs v e answer carried
  obtain ⟨x, -, answer⟩ := bind_eq_ok_iff.1 answer
  cases answer
  exact issued_of_finite carried

theorem passing_binary {name : String} {second : Parameter}
    {body : List Float → Except Breach Value}
    {h : requiredFirst [.required "number", second] = true}
    (issued : ∀ xs v e, body xs = .ok v → v.Carries e → e.IsIssued)
    (default : ∀ d, second.default? = some d → ∀ e, ¬d.Carries e) :
    (binary name second (onNumbers body) h).Passing := by
  refine .of_cellRule rfl (passes_onNumbers issued) fun p hp d hd => ?_
  rcases List.mem_pair.1 hp with rfl | rfl
  · cases hd
  · exact default d hd

theorem passing_rounding : rounding.Passing := by
  refine passing_binary (fun xs v e answer carried => ?_) ?_
  · obtain ⟨x, -, answer⟩ := bind_eq_ok_iff.1 answer
    obtain ⟨places, -, answer⟩ := bind_eq_ok_iff.1 answer
    cases answer
    exact issued_of_finite carried
  · rintro d ⟨⟩ e ⟨⟩

theorem passing_remainder : remainder.Passing := by
  refine passing_binary (fun xs v e answer carried => ?_) (by simp [Parameter.required])
  obtain ⟨y, -, answer⟩ := bind_eq_ok_iff.1 answer
  obtain ⟨x, -, answer⟩ := bind_eq_ok_iff.1 answer
  cases answer
  exact issued_of_modulo carried

theorem passing_power : power.Passing := by
  refine passing_binary (fun xs v e answer carried => ?_) (by simp [Parameter.required])
  obtain ⟨x, -, answer⟩ := bind_eq_ok_iff.1 answer
  obtain ⟨y, -, answer⟩ := bind_eq_ok_iff.1 answer
  cases answer
  exact issued_of_finite carried

end Arithmetic

theorem Catalog.passing_of_mem {f : SheetFunction} (h : f ∈ standardFunctions) : f.Passing := by
  rcases List.mem_append.1 h with h | h
  · rcases List.mem_append.1 h with h | h
    · simp only [Logical.functions, List.mem_cons, List.not_mem_nil, or_false] at h
      rcases h with rfl | rfl | rfl | rfl | rfl | rfl
      · exact Logical.passing_conditional
      · exact Logical.passing_negation
      · exact Logical.passing_fallback _ _ _
      · exact Logical.passing_fallback _ _ _
      · exact SheetFunction.passing_constant _ fun e h => by cases h
      · exact SheetFunction.passing_constant _ fun e h => by cases h
    · simp only [Information.functions, List.mem_cons, List.not_mem_nil, or_false] at h
      rcases h with rfl | rfl | rfl | rfl | rfl | rfl | rfl | rfl
      iterate 7 exact Information.passing_predicate _ _
      exact SheetFunction.passing_constant _ fun e h =>
        Value.issued_of_carries_fault ⟨rfl, by decide⟩ h
  · simp only [Arithmetic.functions, List.mem_cons, List.not_mem_nil, or_false] at h
    rcases h with rfl | rfl | rfl | rfl | rfl | rfl
    · exact Arithmetic.passing_unary _ _
    · exact Arithmetic.passing_unary _ _
    · exact Arithmetic.passing_unary _ _
    · exact Arithmetic.passing_rounding
    · exact Arithmetic.passing_remainder
    · exact Arithmetic.passing_power

namespace Engine

/-- A failure in the answer of a standard call, alone or in a grid, stands in one of the arguments
with the same marker and note, or it is issued. -/
theorem call_passes {settings : Settings} {name : String} {args : List (Option Value)} {v : Value}
    {e : Failure} (answer : call ⟨.standard, settings⟩ name args = .ok v) (carried : v.Carries e) :
    (∃ a, some a ∈ args ∧ a.Carries e) ∨ e.IsIssued := by
  cases found : Catalog.standard.find? name with
  | none =>
    rw [@call_of_unknown ⟨.standard, settings⟩ name found args] at answer
    cases answer
  | some f =>
    rw [call_standard found] at answer
    have passing := Catalog.passing_of_mem (Catalog.named_of_find?_standard found).1
    exact (passing.invoke answer carried).symm

def notedPower : List (Option Value) :=
  [some (.grid (Place.beside (.scalar (.text "x")) (.failure ⟨.ref, some "note"⟩))), some .blank]

theorem call_passes_notedPower :
    ∃ g, call ⟨.standard, .standard⟩ "POWER" notedPower = .ok (.grid g) ∧
      g.get? 0 1 = some (.failure ⟨.ref, some "note"⟩) ∧
      ∃ a, some a ∈ notedPower ∧ a.Carries ⟨.ref, some "note"⟩ := by
  have made : ∃ g, call ⟨.standard, .standard⟩ "POWER" notedPower = .ok (.grid g) ∧
      g.get? 0 1 = some (.failure ⟨.ref, some "note"⟩) := by
    rw [call_standard find?_power]
    exact ⟨_, rfl, rfl⟩
  obtain ⟨g, answer, here⟩ := made
  refine ⟨g, answer, here, (call_passes answer ⟨0, 1, here⟩).resolve_right fun issued => ?_⟩
  cases issued.1

end Engine

end Worksheet
