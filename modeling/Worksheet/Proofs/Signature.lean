import Mathlib.Data.List.Forall2
import Worksheet.Function.Signature

/-! What a signature makes of arguments. Binding gives each parameter its argument or its default,
eager parameters are free of failures when the arguments pass, and a call is driven when some
driving parameter is left with a grid. Arguments that are related one by one are bound to values
that are. -/

namespace Worksheet

section Related

variable {α β γ δ : Type} {R : α → β → Prop} {as : List α} {bs : List β}

theorem map_eq_of_forall₂ {f : α → γ} {g : β → γ} (h : List.Forall₂ R as bs)
    (same : ∀ a b, R a b → f a = g b) : as.map f = bs.map g := by
  have mapped : List.Forall₂ Eq (as.map f) (bs.map g) :=
    List.forall₂_map_left_iff.2 (List.forall₂_map_right_iff.2 (h.imp same))
  rwa [List.forall₂_eq_eq_eq] at mapped

theorem forall₂_mapIdx {S : γ → δ → Prop} {f : Nat → α → γ} {g : Nat → β → δ}
    (h : List.Forall₂ R as bs) (related : ∀ i a b, R a b → S (f i a) (g i b)) :
    List.Forall₂ S (as.mapIdx f) (bs.mapIdx g) := by
  induction h generalizing f g with
  | nil => exact .nil
  | cons head tail ih =>
    rw [List.mapIdx_cons, List.mapIdx_cons]
    exact .cons (related 0 _ _ head) (ih fun i => related (i + 1))

theorem forall_mem_of_forall₂ {p : α → Prop} {q : β → Prop} (h : List.Forall₂ R as bs)
    (keeps : ∀ a b, R a b → p a → q b) (all : ∀ a ∈ as, p a) : ∀ b ∈ bs, q b := by
  induction h with
  | nil => simp
  | cons head tail ih =>
    rw [List.forall_mem_cons] at all ⊢
    exact ⟨keeps _ _ head all.1, ih all.2⟩

end Related

theorem Value.map_toItem {vs : List Value} (h : ∀ v ∈ vs, v.isGrid = false) :
    (vs.map toItem).map .item = vs := by
  have fixed : ∀ v ∈ vs, (item ∘ toItem) v = id v := by
    intro v hv
    rcases v with i | g
    · rfl
    · cases h _ hv
  rw [List.map_map, List.map_congr_left fixed, List.map_id]

namespace Signature

variable {s : Signature} {ps : List Parameter} {args : List (Option Value)} {bound : List Value}

theorem bindParams_map {f : Value → Value} (h : ∀ p ∈ ps, ∀ d, p.default? = some d → f d = d) :
    bindParams ps (args.map (Option.map f)) = (bindParams ps args).map (List.map f) := by
  induction ps generalizing args with
  | nil => rfl
  | cons p ps ih =>
    have head : (args.map (Option.map f)).head?.join = args.head?.join.map f := by
      rcases args with _ | ⟨_ | v, rest⟩ <;> rfl
    have tail := @ih args.tail fun q hq => h q (List.mem_cons_of_mem p hq)
    rw [bindParams, bindParams, head, ← List.map_tail, tail]
    cases args.head?.join with
    | some v => cases bindParams ps args.tail <;> rfl
    | none =>
      cases default : p.default? with
      | none => rfl
      | some d =>
        have fixed := h p List.mem_cons_self d default
        cases bindParams ps args.tail <;> simp [fixed]

theorem mem_of_bindParams (h : bindParams ps args = some bound) (short : args.length ≤ ps.length)
    {v : Value} (hv : some v ∈ args) : v ∈ bound := by
  induction ps generalizing args bound with
  | nil =>
    have none : args = [] := List.length_eq_zero_iff.1 (by simpa using short)
    rw [none] at hv
    cases hv
  | cons p ps ih =>
    rw [bindParams] at h
    split at h
    · cases h
    · rename_i w hw
      obtain ⟨rest, hrest, rfl⟩ := Option.map_eq_some_iff.1 h
      rcases args with _ | ⟨a, as⟩
      · cases hv
      · rcases List.mem_cons.1 hv with rfl | later
        · obtain rfl : v = w := Option.some.inj hw
          exact List.mem_cons_self
        · exact List.mem_cons_of_mem _ (ih hrest (by simpa using short) later)

theorem exists_of_mem_bindParams (h : bindParams ps args = some bound) {v : Value}
    (hv : v ∈ bound) : some v ∈ args ∨ ∃ p ∈ ps, p.default? = some v := by
  induction ps generalizing args bound with
  | nil =>
    cases h
    cases hv
  | cons p ps ih =>
    rw [bindParams] at h
    split at h
    · cases h
    · rename_i w hw
      obtain ⟨rest, hrest, rfl⟩ := Option.map_eq_some_iff.1 h
      rcases List.mem_cons.1 hv with rfl | later
      · rcases args with _ | ⟨_ | a, as⟩
        · exact .inr ⟨p, List.mem_cons_self, hw⟩
        · exact .inr ⟨p, List.mem_cons_self, hw⟩
        · obtain rfl : a = v := Option.some.inj hw
          exact .inl List.mem_cons_self
      · rcases ih hrest later with given | ⟨q, hq, default⟩
        · exact .inl (List.mem_of_mem_tail given)
        · exact .inr ⟨q, List.mem_cons_of_mem _ hq, default⟩

theorem mem_of_eagerFailure? {e : Failure} (h : s.eagerFailure? bound = some e) :
    .failure e ∈ bound := by
  obtain ⟨⟨p, v⟩, hpv, hv⟩ := List.exists_of_findSome?_eq_some h
  change (if p.eager = true then v.failure? else none) = some e at hv
  split at hv
  · rcases v with (s | e') | g
    · cases hv
    · cases hv
      exact (List.of_mem_zip hpv).2
    · cases hv
  · cases hv

theorem getElem?_unwrapDriving (s : Signature) (bound : List Value) (i : Nat) :
    (s.unwrapDriving bound)[i]? =
      bound[i]?.map fun v => if s.drive.drives i then v.unwrap else v := by
  rw [unwrapDriving, List.getElem?_mapIdx]

theorem exists_of_mem_unwrapDriving {w : Value} (hw : w ∈ s.unwrapDriving bound) :
    ∃ v ∈ bound, w = v ∨ w = v.unwrap := by
  obtain ⟨i, hi⟩ := List.mem_iff_getElem?.1 hw
  rw [getElem?_unwrapDriving, Option.map_eq_some_iff] at hi
  obtain ⟨v, hv, rfl⟩ := hi
  refine ⟨v, List.mem_of_getElem? hv, ?_⟩
  by_cases drives : s.drive.drives i = true
  · exact .inr (if_pos drives)
  · exact .inl (if_neg drives)

theorem isDriven_iff :
    s.isDriven bound = true ↔
      ∃ i g, s.drive.drives i = true ∧ bound[i]? = some (.grid g) := by
  rw [isDriven, List.any_eq_true]
  constructor
  · rintro ⟨b, hb, rfl⟩
    obtain ⟨i, hi⟩ := List.mem_iff_getElem?.1 hb
    rw [List.getElem?_mapIdx, Option.map_eq_some_iff] at hi
    obtain ⟨v, hv, both⟩ := hi
    obtain ⟨drives, isGrid⟩ := (Bool.and_eq_true _ _).mp both
    rcases v with w | g
    · cases isGrid
    · exact ⟨i, g, drives, hv⟩
  · rintro ⟨i, g, drives, hv⟩
    refine ⟨true, List.mem_iff_getElem?.2 ⟨i, ?_⟩, rfl⟩
    rw [List.getElem?_mapIdx, hv, Option.map_some, drives]
    rfl

theorem isGrid_of_undriven (every : s.drive = .every) (undriven : s.isDriven bound = false)
    {v : Value} (hv : v ∈ bound) : v.isGrid = false := by
  obtain ⟨i, hi⟩ := List.mem_iff_getElem?.1 hv
  rcases v with x | g
  · rfl
  · have driven : s.isDriven bound = true := isDriven_iff.2 ⟨i, g, by rw [every]; rfl, hi⟩
    rw [undriven] at driven
    cases driven

theorem unwrap_mem_unwrapDriving (every : s.drive = .every) {v : Value} (hv : v ∈ bound) :
    v.unwrap ∈ s.unwrapDriving bound := by
  obtain ⟨i, hi⟩ := List.mem_iff_getElem?.1 hv
  refine List.mem_iff_getElem?.2 ⟨i, ?_⟩
  rw [getElem?_unwrapDriving, hi, every]
  rfl

theorem unwrapDriving_items (s : Signature) (xs : List Item) :
    s.unwrapDriving (xs.map .item) = xs.map .item := by
  rw [unwrapDriving, List.mapIdx_eq_iff]
  intro i
  rw [List.getElem?_map]
  cases xs[i]? with
  | none => rfl
  | some x => simp

theorem isDriven_items (s : Signature) (xs : List Item) :
    s.isDriven (xs.map .item) = false := by
  rw [← Bool.not_eq_true, isDriven_iff]
  rintro ⟨i, g, -, hg⟩
  rw [List.getElem?_map] at hg
  cases here : xs[i]? <;> simp [here] at hg

section Related

variable {R : Value → Value → Prop} {args' : List (Option Value)} {bound' : List Value}

theorem bindParams_rel (refl : ∀ v, R v v) (same : List.Forall₂ (Option.Rel R) args args') :
    Option.Rel (List.Forall₂ R) (bindParams ps args) (bindParams ps args') := by
  induction ps generalizing args args' with
  | nil => exact .some .nil
  | cons p ps ih =>
    have head : Option.Rel R (args.head?.join.or p.default?) (args'.head?.join.or p.default?) := by
      have default : Option.Rel R p.default? p.default? := by
        cases p.default? with
        | none => exact .none
        | some d => exact .some (refl d)
      cases same with
      | nil => exact default
      | cons given rest =>
        cases given with
        | none => exact default
        | some here => exact .some here
    have tail : List.Forall₂ (Option.Rel R) args.tail args'.tail := by
      cases same with
      | nil => exact .nil
      | cons given rest => exact rest
    have below := ih tail
    rw [bindParams, bindParams]
    generalize args.head?.join.or p.default? = first at head ⊢
    generalize args'.head?.join.or p.default? = first' at head ⊢
    generalize bindParams ps args.tail = rest at below ⊢
    generalize bindParams ps args'.tail = rest' at below ⊢
    cases head with
    | none => exact .none
    | some here =>
      cases below with
      | none => exact .none
      | some rest => exact .some (.cons here rest)

theorem exists_bind_of_rel (refl : ∀ v, R v v) (same : List.Forall₂ (Option.Rel R) args args')
    (h : s.bind args = some bound) :
    ∃ bound', s.bind args' = some bound' ∧ List.Forall₂ R bound bound' := by
  have related : Option.Rel (List.Forall₂ R) (s.bind args) (s.bind args') :=
    bindParams_rel refl same
  rw [h] at related
  generalize s.bind args' = other at related ⊢
  cases related with
  | some here => exact ⟨_, rfl, here⟩

theorem bind_eq_none_of_rel (refl : ∀ v, R v v) (same : List.Forall₂ (Option.Rel R) args args')
    (h : s.bind args = none) : s.bind args' = none := by
  have related : Option.Rel (List.Forall₂ R) (s.bind args) (s.bind args') :=
    bindParams_rel refl same
  rw [h] at related
  generalize s.bind args' = other at related ⊢
  cases related with
  | none => rfl

theorem eagerFailure?_congr (same : List.Forall₂ R bound bound')
    (failures : ∀ v w, R v w → v.failure? = w.failure?) :
    s.eagerFailure? bound = s.eagerFailure? bound' := by
  unfold eagerFailure?
  generalize s.params = ps
  induction same generalizing ps with
  | nil => rfl
  | cons head tail ih =>
    cases ps with
    | nil => rfl
    | cons p ps =>
      have here := failures _ _ head
      simp only [List.zip_cons_cons, List.findSome?_cons, ih, here]

end Related

/-- The arguments pass all checks of a call, and these are the values that they bind. -/
structure Admits (s : Signature) (args : List (Option Value)) (bound : List Value) : Prop where
  arity : args.length ≤ s.most
  complete : s.bind args = some bound
  clean : s.eagerFailure? bound = none

theorem Admits.length_eq (h : s.Admits args bound) : bound.length = s.params.length :=
  length_bindParams h.complete

theorem Admits.length_unwrapDriving (h : s.Admits args bound) :
    (s.unwrapDriving bound).length = s.params.length := by
  rw [Signature.length_unwrapDriving, h.length_eq]

end Signature

end Worksheet
