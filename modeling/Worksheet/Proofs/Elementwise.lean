import Worksheet.Proofs.Answer
import Worksheet.Proofs.Catalog

/-! The standard functions that every parameter drives. Across cells only the rule of a function
looks for failures, and outside of them the call ends at the first one before the rule runs. The two
agree but for a text that is no number in front of a failed operand. -/

namespace Worksheet

open Value

namespace SheetFunction

variable {f : SheetFunction} {settings : Settings} {args : List (Option Value)} {xs : List Item}
  {bound : List Value}

theorem invoke_items (arity : args.length ≤ f.signature.most)
    (complete : f.signature.bind args = some (xs.map .item)) :
    f.invoke settings args =
      match f.signature.eagerFailure? (xs.map .item) with
      | some e => .ok (.failure e)
      | none => (f.scalarRule (xs.map .item)).mapError .breach := by
  cases clean : f.signature.eagerFailure? (xs.map .item) with
  | some e => exact invoke_of_course (.failed arity complete clean)
  | none =>
    have undriven := f.signature.isDriven_items xs
    rw [← f.signature.unwrapDriving_items] at undriven
    rw [invoke_of_course (.plain ⟨arity, complete, clean⟩ undriven),
      f.signature.unwrapDriving_items]

end SheetFunction

def Item.orZero : Item → Item
  | .blank => .scalar (.number 0)
  | i => i

namespace Logical

theorem orZero_item (i : Item) : orZero (.item i) = .item i.orZero := by
  rcases i with (_ | x | b | s) | e
  all_goals rfl

theorem fallback_item {name second : String} {caught : Value → Bool} (a b : Item) :
    (fallback name second caught).cellRule [.item a, .item b] =
      .ok (.item (if caught (.item a) then b else a).orZero) := by
  rw [← orZero_item]
  change (if caught (.item a) then pure (orZero (.item b)) else pure (orZero (.item a))) = _
  split <;> rfl

end Logical

namespace Elementwise

/-- In a function that reads two numbers the first operand is a text that spells none, and the
second one is the failure. -/
def Obscured (f : SheetFunction) (bound : List Value) (e : Failure) : Prop :=
  f ∈ [Arithmetic.rounding, Arithmetic.remainder, Arithmetic.power] ∧
    ∃ s, (Scalar.text s).toNumber = .error .value ∧ bound = [text s, failure e]

/-- What the standard functions that every parameter drives have in common. The rule makes an item
of items, and it answers with the failure at which the call ends unless that one is obscured. -/
structure Ruled (f : SheetFunction) : Prop where
  single : f.scalarRule = f.cellRule
  defaults : ∀ p ∈ f.signature.params, ∀ d, p.default? = some d → d.isGrid = false
  answers : ∀ xs : List Item, xs.length = f.signature.params.length →
    ∃ i, f.cellRule (xs.map .item) = .ok (.item i)
  fails : ∀ (xs : List Item) (e : Failure), xs.length = f.signature.params.length →
    f.signature.eagerFailure? (xs.map .item) = some e →
      f.cellRule (xs.map .item) = .ok (failure e) ∨ Obscured f (xs.map .item) e

theorem ruled_constant (name : String) (i : Item) : Ruled (.constant name (item i)) where
  single := rfl
  defaults := by simp [SheetFunction.constant]
  answers _ _ := ⟨i, rfl⟩
  fails xs e h failed := by
    obtain rfl : xs = [] := List.length_eq_zero_iff.1 h
    cases failed

theorem ruled_predicate (name : String) (holds : Value → Bool) :
    Ruled (Information.predicate name holds) where
  single := rfl
  defaults := by simp [Information.predicate, Parameter.required, Parameter.lazy]
  answers xs h := by
    obtain ⟨a, rfl⟩ := List.length_eq_one_iff.1 h
    exact ⟨_, rfl⟩
  fails xs e h failed := by
    obtain ⟨a, rfl⟩ := List.length_eq_one_iff.1 h
    cases failed

theorem ruled_fallback (name second : String) (caught : Value → Bool) :
    Ruled (Logical.fallback name second caught) where
  single := rfl
  defaults := by simp [Logical.fallback, Parameter.required, Parameter.lazy]
  answers xs h := by
    obtain ⟨a, b, rfl⟩ := List.length_eq_two.1 h
    exact ⟨_, Logical.fallback_item a b⟩
  fails xs e h failed := by
    obtain ⟨a, b, rfl⟩ := List.length_eq_two.1 h
    cases failed

theorem ruled_negation : Ruled Logical.negation where
  single := rfl
  defaults := by simp [Logical.negation, Parameter.required]
  answers xs h := by
    obtain ⟨a, rfl⟩ := List.length_eq_one_iff.1 h
    cases read : Logical.truth a with
    | ok b =>
      have rule : Logical.negation.cellRule [item a] = .ok (logical !b) := by
        simp [Logical.negation, argument, read, bind, Except.bind, pure, Except.pure]
      exact ⟨_, rule⟩
    | error e =>
      have rule : Logical.negation.cellRule [item a] = .ok (failure e) := by
        simp [Logical.negation, argument, read, bind, Except.bind, pure, Except.pure]
      exact ⟨_, rule⟩
  fails xs e h failed := by
    obtain ⟨a, rfl⟩ := List.length_eq_one_iff.1 h
    rcases a with s | e'
    · cases failed
    · cases failed
      exact .inl rfl

section Numbers

open Arithmetic

variable {a b : Item} {x y : Float} {e : Failure}

theorem numbers_single (a : Item) : numbers [item a] = (number? a).map fun x => [x] := by
  change (number? a >>= fun x => pure [x]) = _
  cases number? a <;> rfl

theorem numbers_of_failed (h : number? a = .error e) (b : Item) :
    numbers [item a, item b] = .error e := by
  change (number? a >>= fun _ => _) = _
  rw [h]
  rfl

theorem numbers_of_ok (h : number? a = .ok x) (b : Item) :
    numbers [item a, item b] = (number? b).map fun y => [x, y] := by
  have rest := numbers_single b
  rw [numbers] at rest ⊢
  rw [List.mapM_cons, rest]
  change (number? a >>= _) = _
  rw [h]
  cases number? b <;> rfl

theorem number?_scalar (s : Scalar) :
    (∃ x, number? (.scalar s) = .ok x) ∨
      ∃ t, s = .text t ∧ (Scalar.text t).toNumber = .error .value := by
  rcases s with _ | x | b | t
  · exact .inl ⟨0, rfl⟩
  · exact .inl ⟨x, rfl⟩
  · exact .inl ⟨if b then 1 else 0, rfl⟩
  · cases spelled : Decimal.parse? (Text.strip t.toList) with
    | some x => exact .inl ⟨x, by simp only [number?, Scalar.toNumber, spelled]⟩
    | none => exact .inr ⟨t, rfl, by simp only [Scalar.toNumber, spelled]⟩

theorem exists_finite (x : Float) : ∃ i, finite x = item i := by
  unfold finite
  split
  · exact ⟨_, rfl⟩
  · exact ⟨_, rfl⟩

theorem exists_modulo (x y : Float) : ∃ i, modulo x y = item i := by
  unfold modulo
  split
  · exact ⟨_, rfl⟩
  · exact exists_finite _

theorem ruled_unary (name : String) (f : Float → Float) : Ruled (unary name f) where
  single := rfl
  defaults := by simp [unary, Parameter.required]
  answers xs h := by
    obtain ⟨a, rfl⟩ := List.length_eq_one_iff.1 h
    simp only [unary, onNumbers, List.map_cons, List.map_nil, numbers_single]
    cases number? a with
    | error e => exact ⟨_, rfl⟩
    | ok x =>
      obtain ⟨i, hi⟩ := exists_finite (f x)
      exact ⟨i, congrArg Except.ok hi⟩
  fails xs e h failed := by
    obtain ⟨a, rfl⟩ := List.length_eq_one_iff.1 h
    rcases a with s | e'
    · cases failed
    · cases failed
      exact .inl rfl

/-- A function of two numbers is ruled when its calculation makes an item of them. Its operands are
read in their order, so a first one that is no number is all that can go before a failure. -/
theorem ruled_binary {name : String} {second : Parameter} {body : List Float → Except Breach Value}
    {h : requiredFirst [.required "number", second] = true}
    (default : ∀ d, second.default? = some d → d.isGrid = false)
    (mem : binary name second (onNumbers body) h ∈ [rounding, remainder, power])
    (item_body : ∀ x y, ∃ i, body [x, y] = .ok (item i)) :
    Ruled (binary name second (onNumbers body) h) where
  single := rfl
  defaults p hp d hd := by
    rcases List.mem_pair.1 hp with rfl | rfl
    · cases hd
    · exact default d hd
  answers xs h := by
    obtain ⟨a, b, rfl⟩ := List.length_eq_two.1 h
    simp only [binary, onNumbers, List.map_cons, List.map_nil]
    cases first : number? a with
    | error e => exact ⟨_, by rw [numbers_of_failed first]⟩
    | ok x =>
      rw [numbers_of_ok first]
      cases number? b with
      | error e => exact ⟨_, rfl⟩
      | ok y => exact item_body x y
  fails xs e h failed := by
    obtain ⟨a, b, rfl⟩ := List.length_eq_two.1 h
    rcases a with s | e'
    -- The failure stands behind a scalar, which the rule reads as a number before it gets there.
    · have later : b = .failure e := by
        have mem := Signature.mem_of_eagerFailure? failed
        simpa [eq_comm] using mem
      subst later
      rcases number?_scalar s with ⟨x, first⟩ | ⟨t, rfl, unspelled⟩
      · left
        simp only [binary, onNumbers, List.map_cons, List.map_nil, numbers_of_ok first]
        rfl
      · exact .inr ⟨mem, t, unspelled, rfl⟩
    · left
      cases failed
      rfl

end Numbers

theorem ruled_of_mem_functions {f : SheetFunction} (h : f ∈ Arithmetic.functions) : Ruled f := by
  have all : ∀ f ∈ Arithmetic.functions, Ruled f := by
    simp only [Arithmetic.functions, List.forall_mem_cons]
    refine ⟨ruled_unary _ _, ruled_unary _ _, ruled_unary _ _, ?_, ?_, ?_, by simp⟩
    · refine ruled_binary ?_ (by simp [Arithmetic.rounding]) fun x y => ?_
      · rintro d ⟨⟩
        rfl
      · obtain ⟨i, hi⟩ := exists_finite (Arithmetic.roundTo x (Arithmetic.placesOf y))
        exact ⟨i, congrArg Except.ok hi⟩
    · refine ruled_binary ?_ (by simp [Arithmetic.remainder]) fun x y => ?_
      · rintro d ⟨⟩
      · obtain ⟨i, hi⟩ := exists_modulo x y
        exact ⟨i, congrArg Except.ok hi⟩
    · refine ruled_binary ?_ (by simp [Arithmetic.power]) fun x y => ?_
      · rintro d ⟨⟩
      · obtain ⟨i, hi⟩ := exists_finite (x.pow y)
        exact ⟨i, congrArg Except.ok hi⟩
  exact all f h

theorem ruled_of_mem {f : SheetFunction} (h : f ∈ Catalog.standardFunctions)
    (every : f.signature.drive = .every) : Ruled f := by
  rcases List.mem_append.1 h with h | h
  · rcases List.mem_append.1 h with h | h
    · simp only [Logical.functions, List.mem_cons, List.not_mem_nil, or_false] at h
      rcases h with rfl | rfl | rfl | rfl | rfl | rfl
      · cases every
      · exact ruled_negation
      · exact ruled_fallback _ _ _
      · exact ruled_fallback _ _ _
      · exact ruled_constant _ _
      · exact ruled_constant _ _
    · simp only [Information.functions, List.mem_cons, List.not_mem_nil, or_false] at h
      rcases h with rfl | rfl | rfl | rfl | rfl | rfl | rfl | rfl
      all_goals first | exact ruled_predicate _ _ | exact ruled_constant _ _
  · exact ruled_of_mem_functions h

section Obscured

variable {f : SheetFunction} {bound : List Value} {e : Failure}

theorem Obscured.eagerFailure? (h : Obscured f bound e) :
    f.signature.eagerFailure? bound = some e := by
  obtain ⟨mem, s, -, rfl⟩ := h
  simp only [List.mem_cons, List.not_mem_nil, or_false] at mem
  rcases mem with rfl | rfl | rfl <;> rfl

theorem Obscured.cellRule (h : Obscured f bound e) : f.cellRule bound = .ok (fault .value) := by
  obtain ⟨mem, s, unspelled, rfl⟩ := h
  have unread : Arithmetic.number? (.scalar (.text s)) = .error ⟨.value, none⟩ := by
    simp only [Arithmetic.number?, unspelled]
  have read := numbers_of_failed unread (.failure e)
  simp only [List.mem_cons, List.not_mem_nil, or_false] at mem
  rcases mem with rfl | rfl | rfl
  all_goals
    change Arithmetic.onNumbers _ _ = _
    rw [Arithmetic.onNumbers, read]

end Obscured

section Places

variable {f : SheetFunction} {settings : Settings} {args : List (Option Value)} {g : Grid}

theorem Ruled.exists_item (ruled : Ruled f) (every : f.signature.drive = .every) {vs : List Value}
    (length : vs.length = f.signature.params.length) (undriven : f.signature.isDriven vs = false) :
    ∃ i, f.scalarRule vs = .ok (.item i) := by
  have items := Value.map_toItem fun v hv => Signature.isGrid_of_undriven every undriven hv
  obtain ⟨i, rule⟩ := ruled.answers (vs.map toItem) (by rw [List.length_map, length])
  rw [items] at rule
  exact ⟨i, by rw [ruled.single, rule]⟩

theorem Ruled.isDriven_of_grid {bound : List Value} (ruled : Ruled f)
    (every : f.signature.drive = .every) (h : f.signature.Admits args bound)
    (answer : f.invoke settings args = .ok (.grid g)) :
    f.signature.isDriven (f.signature.unwrapDriving bound) = true := by
  cases driven : f.signature.isDriven (f.signature.unwrapDriving bound) with
  | true => rfl
  | false =>
    obtain ⟨i, rule⟩ := ruled.exists_item every h.length_unwrapDriving driven
    rw [SheetFunction.invoke_of_course (.plain h driven), rule] at answer
    cases answer

theorem exists_of_invoke_eq_grid (ruled : Ruled f) (every : f.signature.drive = .every)
    (answer : f.invoke settings args = .ok (.grid g)) :
    ∃ bound, f.signature.Admits args bound ∧
      g.extent = commonExtent (f.signature.unwrapDriving bound) ∧
      settings.allows g.extent = true ∧
      ∀ r c, r < g.rows → c < g.cols → ∃ v, g.get? r c = some v.toItem ∧
        f.cellRule (alignedAt settings.stretch r c (f.signature.unwrapDriving bound)) = .ok v := by
  have course := SheetFunction.answered_of_invoke answer
  cases course with
  | cellwise h extent few places => exact ⟨_, h, extent, few, places⟩
  | plain h undriven rule =>
    rw [ruled.isDriven_of_grid every h answer] at undriven
    cases undriven

theorem Ruled.bind_items {bound : List Value} (ruled : Ruled f)
    (complete : f.signature.bind args = some bound) {shown : Value → Item}
    (same : ∀ i, shown (.item i) = i) :
    f.signature.bind (args.map (Option.map fun v => .item (shown v))) =
      some ((bound.map shown).map .item) := by
  have fixed : ∀ p ∈ f.signature.params, ∀ d, p.default? = some d →
      (Value.item (shown d)) = d := by
    intro p hp d hd
    have isItem := ruled.defaults p hp d hd
    rcases d with i | g
    · rw [same]
    · cases isItem
  rw [Signature.bind] at complete ⊢
  rw [Signature.bindParams_map fixed, complete, List.map_map]
  rfl

theorem Ruled.exists_answer (ruled : Ruled f) {xs : List Item}
    (arity : args.length ≤ f.signature.most)
    (complete : f.signature.bind args = some (xs.map .item)) :
    ∃ i, f.cellRule (xs.map .item) = .ok (.item i) ∧
      (∀ e, Obscured f (xs.map .item) e →
        i = .fault .value ∧ f.invoke settings args = .ok (failure e)) ∧
      ((∀ e, ¬Obscured f (xs.map .item) e) → f.invoke settings args = .ok (.item i)) := by
  have length : xs.length = f.signature.params.length := by
    have := Signature.length_bindParams complete
    rwa [List.length_map] at this
  obtain ⟨i, hi⟩ := ruled.answers xs length
  refine ⟨i, hi, fun e obscured => ?_, fun clear => ?_⟩
  · have same := hi.symm.trans obscured.cellRule
    rw [SheetFunction.invoke_items arity complete, obscured.eagerFailure?]
    cases same
    exact ⟨rfl, rfl⟩
  · rw [SheetFunction.invoke_items arity complete]
    cases failed : f.signature.eagerFailure? (xs.map .item) with
    | some e =>
      rcases ruled.fails xs e length failed with rule | obscured
      · have same := hi.symm.trans rule
        cases same
        rfl
      · exact absurd obscured (clear e)
    | none =>
      simp only [ruled.single, hi]
      rfl

end Places

end Elementwise

namespace Engine

open Elementwise

/-- A standard function that every parameter drives has at each place of its grid what the call
gives for the items that the arguments show there, unless a failure is obscured. Then the grid has
the failure for values, and the call gives the obscured one. -/
theorem call_elementwise {settings : Settings} {name : String} {f : SheetFunction}
    {args : List (Option Value)} {g : Grid} {r c : Nat}
    (found : Catalog.standard.find? name = some f) (every : f.signature.drive = .every)
    (answer : call ⟨.standard, settings⟩ name args = .ok (.grid g))
    (hr : r < g.rows) (hc : c < g.cols) :
    let shown (v : Value) : Item := v.cellAt (.fault .na) settings.stretch r c
    let cells := args.map (Option.map fun v => .item (shown v))
    let call := call ⟨.standard, settings⟩ name cells
    (∀ v, some v ∈ args → ∃ h, h.get? r c = some (shown v) ∧
      v.spread settings.cellLimit.toNat g.extent .notAvailable settings.stretch = .ok h) ∧
    ∃ i operands, g.get? r c = some i ∧ f.signature.bind cells = some operands ∧
      (∀ e, Obscured f operands e → i = .fault .value ∧ call = .ok (.failure e)) ∧
      ((∀ e, ¬Obscured f operands e) → call = .ok (.item i)) := by
  intro shown cells call
  have ruled := ruled_of_mem (Catalog.named_of_find?_standard found).1 every
  rw [call_standard found] at answer
  obtain ⟨bound, admits, extent, few, places⟩ := exists_of_invoke_eq_grid ruled every answer
  constructor
  · intro v hv
    have mem := Signature.unwrap_mem_unwrapDriving every
      (Signature.mem_of_bindParams admits.complete admits.arity hv)
    have fits : v.extent.fits g.extent = true := by
      rw [extent, ← v.extent_unwrap]
      exact extent_fits_commonExtent mem
    obtain ⟨h, spread, shows⟩ :=
      v.spread_shows .notAvailable g.rows_pos g.cols_pos fits (.inr few)
    exact ⟨h, shows.get? hr hc, spread⟩
  · have complete : f.signature.bind cells = some ((bound.map shown).map .item) :=
      ruled.bind_items admits.complete fun i => rfl
    have arity : cells.length ≤ f.signature.most := by
      rw [List.length_map]
      exact admits.arity
    obtain ⟨v, here, rule⟩ := places r c hr hc
    obtain ⟨i, hi, obscured, clear⟩ := ruled.exists_answer arity complete
    rw [Signature.alignedAt_unwrapDriving, alignedAt_eq_map_item] at rule
    have same : v = .item i := Except.ok.inj (rule.symm.trans hi)
    subst same
    have called : call = f.invoke settings cells := call_standard found cells
    rw [called]
    exact ⟨i, _, here, complete, obscured, clear⟩

theorem find?_power : Catalog.standard.find? "POWER" = some Arithmetic.power :=
  Catalog.find?_standard_iff.2
    ⟨by simp [Catalog.standardFunctions, Arithmetic.functions], by decide +kernel⟩

def mixedPower : List (Option Value) :=
  [some (.grid (Place.beside (.scalar (.text "x")) .blank)),
    some (.grid (Place.beside (.fault .ref) (.fault .ref)))]

theorem call_mixedPower : ∃ g, g.extent = ⟨1, 2⟩ ∧ g.get? 0 0 = some (.fault .value) ∧
    call ⟨.standard, .standard⟩ "POWER" mixedPower = .ok (.grid g) := by
  rw [call_standard find?_power]
  exact ⟨_, rfl, rfl, rfl⟩

theorem call_elementwise_power :
    ∃ g i, call ⟨.standard, .standard⟩ "POWER" mixedPower = .ok (.grid g) ∧
      g.get? 0 1 = some i ∧
      call ⟨.standard, .standard⟩ "POWER" [some blank, some (fault .ref)] =
        .ok (.item i) := by
  obtain ⟨g, extent, -, answer⟩ := call_mixedPower
  have rows : g.rows = 1 := congrArg Extent.rows extent
  have cols : g.cols = 2 := congrArg Extent.cols extent
  obtain ⟨-, i, operands, here, bound, -, clear⟩ :=
    call_elementwise (r := 0) (c := 1) find?_power rfl answer (by omega) (by omega)
  -- The first operand is blank here, and thus no text.
  refine ⟨g, i, answer, here, clear fun e obscured => ?_⟩
  obtain ⟨-, s, -, shape⟩ := obscured
  rw [shape] at bound
  cases bound

theorem power_elementwise_ne :
    ∃ g, call ⟨.standard, .standard⟩ "POWER" mixedPower = .ok (.grid g) ∧
      ∃ i, g.get? 0 0 = some i ∧
        call ⟨.standard, .standard⟩ "POWER" [some (text "x"), some (fault .ref)] ≠
          .ok (.item i) := by
  obtain ⟨g, -, here, answer⟩ := call_mixedPower
  refine ⟨g, answer, _, here, ?_⟩
  rw [call_standard find?_power]
  intro same
  cases same

end Engine

end Worksheet
