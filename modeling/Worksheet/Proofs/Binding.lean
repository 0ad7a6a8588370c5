import Worksheet.Function.Generic
import Worksheet.Proofs.Call

/-! The binding of arguments. A parameter takes its argument or its default, so a call sees of its
arguments only how many there are, and which value each parameter takes. Main statement: surplus
arguments are refused, a required parameter that goes without leaves the answer unavailable, and
omitted arguments at the end or defaults that are given explicitly change nothing. -/

namespace Worksheet

theorem join_getElem?_append_replicate {α : Type} (xs : List (Option α)) (n i : Nat) :
    (xs ++ List.replicate n none)[i]?.join = xs[i]?.join := by
  rw [List.getElem?_append]
  split
  · rfl
  · rename_i beyond
    rw [List.getElem?_eq_none (Nat.not_lt.1 beyond), List.getElem?_replicate]
    split <;> rfl

def supply (args : List (Option Value)) (i : Nat) (v : Value) : List (Option Value) :=
  (args ++ List.replicate (i + 1 - args.length) none).set i (some v)

theorem length_supply (args : List (Option Value)) (i : Nat) (v : Value) :
    (supply args i v).length = max args.length (i + 1) := by
  rw [supply, List.length_set, List.length_append, List.length_replicate]
  omega

theorem join_getElem?_supply (args : List (Option Value)) (i j : Nat) (v : Value) :
    (supply args i v)[j]?.join = if i = j then some v else args[j]?.join := by
  rw [supply, List.getElem?_set]
  split
  · have opened : i < (args ++ List.replicate (i + 1 - args.length) none).length := by
      rw [List.length_append, List.length_replicate]
      omega
    rw [if_pos opened]
    rfl
  · exact join_getElem?_append_replicate args _ j

namespace Signature

variable {s : Signature} {ps : List Parameter} {args args' : List (Option Value)}

/-- A required parameter goes without: its argument is omitted, or there are not so many. -/
def Lacks (s : Signature) (args : List (Option Value)) : Prop :=
  ∃ (i : Nat) (p : Parameter), s.params[i]? = some p ∧ p.isRequired = true ∧ args[i]?.join = none

theorem bindParams_congr
    (same : ∀ (i : Nat) (p : Parameter), ps[i]? = some p →
      args[i]?.join.or p.default? = args'[i]?.join.or p.default?) :
    bindParams ps args = bindParams ps args' := by
  induction ps generalizing args args' with
  | nil => rfl
  | cons p ps ih =>
    have head := same 0 p rfl
    rw [← List.head?_eq_getElem?, ← List.head?_eq_getElem?] at head
    have tail : bindParams ps args.tail = bindParams ps args'.tail := by
      refine ih fun i q hq => ?_
      rw [List.getElem?_tail, List.getElem?_tail]
      exact same (i + 1) q hq
    rw [bindParams, bindParams, head, tail]

theorem bindParams_eq_none_iff :
    bindParams ps args = none ↔
      ∃ (i : Nat) (p : Parameter), ps[i]? = some p ∧ args[i]?.join.or p.default? = none := by
  induction ps generalizing args with
  | nil => simp [bindParams]
  | cons p ps ih =>
    rw [bindParams, List.head?_eq_getElem?]
    cases head : args[0]?.join.or p.default? with
    | none => exact ⟨fun _ => ⟨0, p, rfl, head⟩, fun _ => rfl⟩
    | some v =>
      simp only [Option.map_eq_none_iff, ih, List.getElem?_tail]
      constructor
      · rintro ⟨i, q, hq, without⟩
        exact ⟨i + 1, q, hq, without⟩
      · rintro ⟨_ | i, q, hq, without⟩
        · obtain rfl : p = q := Option.some.inj hq
          cases head.symm.trans without
        · exact ⟨i, q, hq, without⟩

theorem lacks_iff : s.Lacks args ↔ s.bind args = none := by
  simp only [Lacks, bind, bindParams_eq_none_iff, Option.or_eq_none_iff, Parameter.isRequired,
    Option.isNone_iff_eq_none, and_comm]

theorem isRequired_iff_lt (h : requiredFirst ps = true) {i : Nat} {p : Parameter}
    (hp : ps[i]? = some p) : p.isRequired = true ↔ i < ps.countP Parameter.isRequired := by
  induction ps generalizing i with
  | nil => cases hp
  | cons q ps ih =>
    by_cases required : q.isRequired = true
    · have rest : requiredFirst ps = true := by
        rwa [requiredFirst, List.dropWhile_cons_of_pos required] at h
      rw [List.countP_cons_of_pos required]
      cases i with
      | zero =>
        obtain rfl : q = p := Option.some.inj hp
        exact ⟨fun _ => Nat.succ_pos _, fun _ => required⟩
      | succ i => rw [ih rest hp, Nat.succ_lt_succ_iff]
    · -- From the first optional parameter on none is required.
      have none : ∀ p ∈ q :: ps, ¬p.isRequired = true := by
        rw [requiredFirst, List.dropWhile_cons_of_neg required, List.all_eq_true] at h
        simpa using h
      rw [List.countP_eq_zero.2 none]
      exact ⟨fun here => absurd here (none p (List.mem_of_getElem? hp)), fun lt => by omega⟩

theorem lacks_iff_lt (s : Signature) {args : List (Option Value)}
    (given : ∀ a ∈ args, a.isSome = true) : s.Lacks args ↔ args.length < s.least := by
  have without : ∀ i, args[i]?.join = none ↔ args.length ≤ i := by
    intro i
    rw [← List.getElem?_eq_none_iff]
    cases here : args[i]? with
    | none => simp
    | some a =>
      obtain ⟨v, rfl⟩ := Option.isSome_iff_exists.1 (given a (List.mem_of_getElem? here))
      simp
  constructor
  · rintro ⟨i, p, hp, required, omitted⟩
    exact Nat.lt_of_le_of_lt ((without i).1 omitted)
      ((isRequired_iff_lt s.required_first hp).1 required)
  · intro few
    have within : args.length < s.params.length :=
      Nat.lt_of_lt_of_le few List.countP_le_length
    have hp := List.getElem?_eq_getElem within
    exact ⟨_, _, hp, (isRequired_iff_lt s.required_first hp).2 few,
      (without _).2 (Nat.le_refl _)⟩

end Signature

namespace SheetFunction

variable {f : SheetFunction} {settings : Settings} {args args' : List (Option Value)}

theorem argumentCount_iff :
    (∃ function least most actual,
        f.invoke settings args = .error (.argumentCount function least most actual)) ↔
      f.signature.most < args.length := by
  constructor
  · rintro ⟨function, least, most, actual, refused⟩
    by_contra arity
    have other {x : Except Breach Value} :
        x.mapError CallError.breach ≠
          .error (.argumentCount function least most actual) := by
      rintro same
      cases x <;> cases same
    have taken := invoke_eq_iff.1 refused
    generalize out : (Except.error _ : Except CallError Value) = outcome at taken
    cases taken with
    | surplus h => exact arity h
    | incomplete | failed | spilled => cases out
    | cellwise | plain => exact other out.symm
  · intro surplus
    exact ⟨_, _, _, _, invoke_of_course (.surplus surplus)⟩

/-- A call sees of its arguments only their number, and the values that the parameters take. -/
theorem invoke_congr_args (length : args.length = args'.length ∨
      args.length ≤ f.signature.most ∧ args'.length ≤ f.signature.most)
    (same : f.signature.bind args = f.signature.bind args') :
    f.invoke settings args = f.invoke settings args' := by
  rcases length with length | ⟨arity, arity'⟩
  · simp only [invoke, invokeBy, length, same]
  · simp only [invoke, invokeBy, if_neg (Nat.not_lt.2 arity), if_neg (Nat.not_lt.2 arity'), same]

/-- Calls refuse surplus arguments, omitted ones included, and answer that the value is not
available when a required parameter goes without, whatever the others are given. Omitted arguments
at the end do not change a call, and neither does a default that is given where its argument was
left out. Where no argument is omitted, a parameter goes without when there are fewer arguments than
required parameters. -/
theorem invoke_binds (f : SheetFunction) (settings : Settings) (args : List (Option Value)) :
    let call := f.invoke settings
    ((∃ function least most actual,
        call args = .error (.argumentCount function least most actual)) ↔
      f.signature.most < args.length) ∧
    (args.length ≤ f.signature.most → f.signature.Lacks args → call args = .ok .notAvailable) ∧
    (∀ n, args.length + n ≤ f.signature.most →
      call (args ++ List.replicate n none) = call args) ∧
    (∀ (i : Nat) (p : Parameter) (d : Value), f.signature.params[i]? = some p →
      p.default? = some d → args[i]?.join = none → call (supply args i d) = call args) ∧
    ((∀ a ∈ args, a.isSome = true) →
      (f.signature.Lacks args ↔ args.length < f.signature.least)) := by
  intro call
  refine ⟨argumentCount_iff, fun arity lacks => ?_, fun n room => ?_, fun i p d hp hd omitted => ?_,
    f.signature.lacks_iff_lt⟩
  · exact invoke_of_course (.incomplete arity (Signature.lacks_iff.1 lacks))
  · refine invoke_congr_args (.inr ⟨?_, by omega⟩) (Signature.bindParams_congr fun i p hp => ?_)
    · rwa [List.length_append, List.length_replicate]
    · rw [join_getElem?_append_replicate]
  · have within : i < f.signature.most := (List.getElem?_eq_some_iff.1 hp).1
    refine invoke_congr_args ?_ (Signature.bindParams_congr fun j q hq => ?_)
    · rw [length_supply]
      omega
    · rw [join_getElem?_supply]
      split
      · rename_i here
        subst here
        obtain rfl : p = q := Option.some.inj (hp.symm.trans hq)
        rw [omitted, hd]
        rfl
      · rfl

theorem invoke_binds_captions :
    let s : Signature := ⟨"H", [.required "a", .optional "b" (.text "x"),
      .optional "c" (.text "y")], .every, rfl, rfl⟩
    let call := invoke ⟨s, GenericRule.captions.rule, none⟩ .standard
    (∃ function least most actual, call [none, none, none, none] =
      .error (.argumentCount function least most actual)) ∧
    call [none, some (.fault .ref)] = .ok .notAvailable ∧
    call [some (.text "v"), none, none] = call [some (.text "v")] ∧
    call [some (.text "v"), none, some (.text "y")] = call [some (.text "v")] ∧
    call [some (.text "v"), some (.text "x"), some (.text "z")] =
      call [some (.text "v"), none, some (.text "z")] ∧
    (s.Lacks [some (.text "v")] ↔ 1 < 1) := by
  intro s call
  let f : SheetFunction := ⟨s, GenericRule.captions.rule, none⟩
  obtain ⟨-, -, padded, supplied, given⟩ := invoke_binds f .standard [some (.text "v")]
  obtain ⟨-, -, -, between, -⟩ :=
    invoke_binds f .standard [some (.text "v"), none, some (.text "z")]
  exact ⟨(invoke_binds f .standard [none, none, none, none]).1.2 (by decide),
    (invoke_binds f .standard [none, some (.fault .ref)]).2.1 (by decide) ⟨0, _, rfl, rfl, rfl⟩,
    padded 2 (by decide), supplied 2 _ _ rfl rfl rfl, between 1 _ _ rfl rfl rfl, given (by simp)⟩

end SheetFunction

end Worksheet
