import Worksheet.Proofs.Binding

/-! The failure that ends a call. Once all parameters have a value, a call looks for failures at the
eager ones, in order, before it unwraps a grid, counts cells or asks a rule. Main statement: the
first such failure is the answer as it stands, so nothing else of the call can be seen in it. -/

namespace Worksheet

namespace Signature

variable {s : Signature} {ps : List Parameter} {args : List (Option Value)} {bound : List Value}
  {i : Nat} {e : Failure}

structure Completes (s : Signature) (args : List (Option Value)) : Prop where
  arity : args.length ≤ s.most
  supplied : ¬s.Lacks args

/-- The parameter at an index is eager, and its argument or its default is a failure. -/
def FailsAt (s : Signature) (args : List (Option Value)) (i : Nat) (e : Failure) : Prop :=
  ∃ p, s.params[i]? = some p ∧ p.eager = true ∧ args[i]?.join.or p.default? = some (.failure e)

structure FailsFirstAt (s : Signature) (args : List (Option Value)) (i : Nat) (e : Failure) :
    Prop where
  fails : s.FailsAt args i e
  before : ∀ j < i, ∀ e', ¬s.FailsAt args j e'

theorem FailsAt.exists_first (h : s.FailsAt args i e) :
    ∃ j ≤ i, ∃ e', s.FailsFirstAt args j e' := by
  induction i using Nat.strongRecOn generalizing e with
  | ind i ih =>
    by_cases earlier : ∃ j < i, ∃ e', s.FailsAt args j e'
    · obtain ⟨j, lt, e', fails⟩ := earlier
      obtain ⟨k, le, first⟩ := ih j lt fails
      exact ⟨k, by omega, first⟩
    · exact ⟨i, Nat.le_refl i, e, h, fun j lt e' fails => earlier ⟨j, lt, e', fails⟩⟩

theorem Completes.exists_bind (h : s.Completes args) : ∃ bound, s.bind args = some bound :=
  Option.ne_none_iff_exists'.1 fun without => h.supplied (lacks_iff.2 without)

theorem getElem?_of_bindParams (h : bindParams ps args = some bound) (i : Nat) :
    bound[i]? = ps[i]?.bind fun p => args[i]?.join.or p.default? := by
  induction ps generalizing args bound i with
  | nil =>
    cases h
    rfl
  | cons p ps ih =>
    rw [bindParams, List.head?_eq_getElem?] at h
    split at h
    · cases h
    · rename_i v taken
      obtain ⟨rest, hrest, rfl⟩ := Option.map_eq_some_iff.1 h
      cases i with
      | zero => exact taken.symm
      | succ i =>
        rw [List.getElem?_cons_succ, ih hrest i, List.getElem?_tail]
        rfl

theorem failsAt_iff (complete : s.bind args = some bound) :
    s.FailsAt args i e ↔ ∃ p, (s.params.zip bound)[i]? = some (p, .failure e) ∧ p.eager = true := by
  refine exists_congr fun p => ?_
  rw [List.getElem?_zip_eq_some, getElem?_of_bindParams complete i]
  constructor
  · rintro ⟨hp, eager, taken⟩
    exact ⟨⟨hp, by rw [hp]; exact taken⟩, eager⟩
  · rintro ⟨⟨hp, taken⟩, eager⟩
    rw [hp] at taken
    exact ⟨hp, eager, taken⟩

theorem FailsFirstAt.eagerFailure? (h : s.FailsFirstAt args i e)
    (complete : s.bind args = some bound) : s.eagerFailure? bound = some e := by
  obtain ⟨p, here, eager⟩ := (failsAt_iff complete).1 h.fails
  obtain ⟨lt, at_i⟩ := List.getElem?_eq_some_iff.1 here
  have split : s.params.zip bound = (s.params.zip bound).take i ++
      (p, .failure e) :: (s.params.zip bound).drop (i + 1) := by
    rw [← at_i, ← List.drop_eq_getElem_cons lt, List.take_append_drop]
  refine List.findSome?_eq_some_iff.2 ⟨_, _, _, split, if_pos eager, fun (q, v) hq => ?_⟩
  obtain ⟨j, hj⟩ := List.mem_iff_getElem?.1 hq
  rw [List.getElem?_take] at hj
  split at hj
  · rename_i lt
    refine Option.eq_none_iff_forall_ne_some.2 fun e' failed => ?_
    obtain ⟨eager, failed⟩ := Option.ite_none_right_eq_some.1 failed
    obtain rfl := Value.failure?_eq_some_iff.1 failed
    exact h.before j lt e' ((failsAt_iff complete).2 ⟨q, hj, eager⟩)
  · cases hj

end Signature

namespace SheetFunction

variable {f : SheetFunction} {settings : Settings} {args : List (Option Value)} {i : Nat}
  {e : Failure}

theorem invoke_of_failsFirstAt (complete : f.signature.Completes args)
    (first : f.signature.FailsFirstAt args i e) : f.invoke settings args = .ok (.failure e) := by
  obtain ⟨bound, binds⟩ := complete.exists_bind
  exact invoke_of_course (.failed complete.arity binds (first.eagerFailure? binds))

/-- If an eager parameter fails there is a first one that does, and its failure is the answer. Calls
with the same first failure at the same parameter answer alike, with whatever functions, settings
and other arguments they are made. -/
theorem invoke_failsFirst (f : SheetFunction) (settings : Settings) {args : List (Option Value)}
    (complete : f.signature.Completes args) :
    (∀ i e, f.signature.FailsAt args i e →
      ∃ j ≤ i, ∃ e', f.signature.FailsFirstAt args j e') ∧
    (∀ i e, f.signature.FailsFirstAt args i e → f.invoke settings args = .ok (.failure e)) ∧
    ∀ (f' : SheetFunction) (settings' : Settings) (args' : List (Option Value)) (i : Nat)
      (e : Failure), f'.signature.Completes args' → f.signature.FailsFirstAt args i e →
      f'.signature.FailsFirstAt args' i e →
      f'.invoke settings' args' = f.invoke settings args := by
  refine ⟨fun i e fails => fails.exists_first, fun i e first => ?_, ?_⟩
  · exact invoke_of_failsFirstAt complete first
  · intro f' settings' args' i e complete' first first'
    rw [invoke_of_failsFirstAt complete first, invoke_of_failsFirstAt complete' first']

/-- The lazy first parameter fails, the second one is given a failure in a grid of its own, and the
third one has a failure for its default. With rules that refuse, no cell allowed and other arguments
in the first two places the call answers alike. -/
theorem invoke_failsFirst_default :
    let s : Signature := ⟨"H", [(Parameter.required "a").lazy, .required "b",
      .optional "c" (.failure ⟨.num, some "unset"⟩)], .every, rfl, rfl⟩
    let refusing : Rule := fun _ => .error (.noArgument 0 7)
    let args : List (Option Value) :=
      [some (.fault .divZero), some (.grid (Place.alone (.fault .ref))), none]
    invoke ⟨s, GenericRule.captions.rule, none⟩ .standard args =
        .ok (.failure ⟨.num, some "unset"⟩) ∧
      invoke ⟨s, refusing, some refusing⟩ ⟨.replicate, 0⟩
          [some (.grid (Place.beside .blank (.fault .na))), some (.text "x"), none] =
        invoke ⟨s, GenericRule.captions.rule, none⟩ .standard args := by
  intro s refusing args
  have complete : ∀ v w : Value, s.Completes [some v, some w, none] := fun v w =>
    ⟨Nat.le_refl 3, fun lacks => Option.some_ne_none _ (Signature.lacks_iff.1 lacks)⟩
  have first : ∀ v w : Value, w.isFailure = false →
      s.FailsFirstAt [some v, some w, none] 2 ⟨.num, some "unset"⟩ := by
    intro v w clean
    refine ⟨⟨_, rfl, rfl, rfl⟩, fun j lt e' ⟨p, hp, eager, taken⟩ => ?_⟩
    match j, lt with
    | 0, _ =>
      cases hp
      cases eager
    | 1, _ =>
      cases hp
      cases taken
      cases clean
  obtain ⟨-, answers, alike⟩ :=
    invoke_failsFirst ⟨s, GenericRule.captions.rule, none⟩ .standard (complete _ _)
  exact ⟨answers _ _ (first _ _ rfl),
    alike _ _ _ _ _ (complete _ _) (first _ _ rfl) (first _ _ rfl)⟩

end SheetFunction

end Worksheet
