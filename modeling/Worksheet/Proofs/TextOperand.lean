import Worksheet.Proofs.Decimal.Literal
import Worksheet.Proofs.Provenance

/-! Texts as operands. A text counts as a number when what trimming leaves of it is a decimal
literal or one of the words for infinity and for the undefined number. Main statement: no other text
counts as one, and a numeric function that is given such a text among scalars has a failure to
answer with. -/

namespace Worksheet

open Value

namespace Scalar

variable {s : String} {x : Float}

theorem toNumber_text_eq_ok_iff : (text s).toNumber = .ok x ↔
    ∃ t, Text.Trims s.toList t ∧ (Decimal.ReadsLiteral t x ∨ Decimal.ReadsWord t x) := by
  have read : (text s).toNumber = .ok x ↔ Decimal.parse? (Text.strip s.toList) = some x := by
    rw [toNumber]
    cases Decimal.parse? (Text.strip s.toList) <;> simp
  rw [read, Decimal.parse?_eq_some_iff]
  constructor
  · intro reads
    exact ⟨_, Text.trims_strip _, reads⟩
  · rintro ⟨t, trims, reads⟩
    rwa [trims.strip_eq]

theorem toNumber_text_eq_error (unread : ∀ x, (text s).toNumber ≠ .ok x) :
    (text s).toNumber = .error .value := by
  cases parsed : Decimal.parse? (Text.strip s.toList) with
  | some x => exact absurd (by simp only [toNumber, parsed]) (unread x)
  | none => simp only [toNumber, parsed]

end Scalar

namespace Arithmetic

variable {f : SheetFunction} {settings : Settings} {args : List (Option Value)} {vs : List Value}
  {s : String}

theorem exists_onNumbers (h : f ∈ functions) : ∃ body, f.cellRule = onNumbers body := by
  simp only [functions, List.mem_cons, List.not_mem_nil, or_false] at h
  rcases h with rfl | rfl | rfl | rfl | rfl | rfl
  all_goals exact ⟨_, rfl⟩

theorem numbers_of_unread (scalars : ∀ v ∈ vs, ∃ c, v = scalar c) (given : text s ∈ vs)
    (unread : (Scalar.text s).toNumber = .error .value) :
    numbers vs = .error ⟨.value, none⟩ := by
  cases read : numbers vs with
  | ok xs =>
    have each := forall_mem_of_forall₂ (mapM_eq_ok_iff.1 read).flip
      (q := fun v => ∃ x, number? v.toItem = .ok x) (fun x v here _ => ⟨x, here⟩) fun _ _ => trivial
    obtain ⟨x, here⟩ := each _ given
    simp only [number?, toItem_item, unread] at here
    cases here
  | error e =>
    obtain ⟨v, hv, failed⟩ := exists_of_mapM_eq_error read
    obtain ⟨c, rfl⟩ := scalars v hv
    rcases number?_eq_error failed with failure | rfl
    · cases failure
    · rfl

theorem default_eq_scalar (h : f ∈ functions) {p : Parameter} (hp : p ∈ f.signature.params)
    {d : Value} (default : p.default? = some d) : ∃ c, d = scalar c := by
  have isItem := (Elementwise.ruled_of_mem_functions h).defaults p hp d default
  have sound := (Catalog.passing_of_mem (List.mem_append_right _ h)).defaults p hp d default
  rcases d with (c | e) | g
  · exact ⟨c, rfl⟩
  · exact absurd rfl (sound e)
  · cases isItem

theorem invoke_of_unread (h : f ∈ functions) (arity : args.length ≤ f.signature.most)
    (scalars : ∀ v, some v ∈ args → ∃ c, v = scalar c) (given : some (text s) ∈ args)
    (unread : (Scalar.text s).toNumber = .error .value) :
    f.invoke settings args =
      .ok (if (f.signature.bind args).isSome then fault .value else notAvailable) := by
  cases complete : f.signature.bind args with
  | none => exact SheetFunction.invoke_of_course (.incomplete arity complete)
  | some bound =>
    have scalars' : ∀ v ∈ bound, ∃ c, v = scalar c := by
      intro v hv
      rcases Signature.exists_of_mem_bindParams complete hv with given | ⟨p, hp, default⟩
      · exact scalars v given
      · exact default_eq_scalar h hp default
    have items := Value.map_toItem fun v hv => by
      obtain ⟨c, rfl⟩ := scalars' v hv
      rfl
    have clean : f.signature.eagerFailure? bound = none := by
      rw [Option.eq_none_iff_forall_ne_some]
      intro e failed
      obtain ⟨c, same⟩ := scalars' _ (Signature.mem_of_eagerFailure? failed)
      cases same
    have mem := Signature.mem_of_bindParams complete arity given
    obtain ⟨body, rule⟩ := exists_onNumbers h
    rw [← items] at complete
    rw [SheetFunction.invoke_items arity complete, items, clean,
      (Elementwise.ruled_of_mem_functions h).single, rule, onNumbers,
      numbers_of_unread scalars' mem unread]
    rfl

/-- A text counts as a number when what trimming leaves of it is a decimal literal, or else one of
the words. Any other text is the failure for values, and so is the answer of a numeric function that
is given it among scalars, unless a required operand is missing. -/
theorem text_operand_decided (s : String) :
    (∀ x, (Scalar.text s).toNumber = .ok x ↔
      ∃ t, Text.Trims s.toList t ∧ (Decimal.ReadsLiteral t x ∨ Decimal.ReadsWord t x)) ∧
    ((∀ t x, Text.Trims s.toList t → ¬Decimal.ReadsLiteral t x ∧ ¬Decimal.ReadsWord t x) →
      (Scalar.text s).toNumber = .error .value ∧
      ∀ settings name f args, Catalog.standard.find? name = some f → f ∈ functions →
        args.length ≤ f.signature.most → (∀ v, some v ∈ args → ∃ c, v = scalar c) →
        some (text s) ∈ args →
          Engine.call ⟨.standard, settings⟩ name args =
            .ok (if (f.signature.bind args).isSome then fault .value else notAvailable)) := by
  refine ⟨fun x => Scalar.toNumber_text_eq_ok_iff, fun other => ?_⟩
  have unread : (Scalar.text s).toNumber = .error .value := by
    refine Scalar.toNumber_text_eq_error fun x read => ?_
    obtain ⟨t, trims, literal | word⟩ := Scalar.toNumber_text_eq_ok_iff.1 read
    · exact (other t x trims).1 literal
    · exact (other t x trims).2 word
  refine ⟨unread, fun settings name f args found numeric arity scalars given => ?_⟩
  rw [Engine.call_standard found]
  exact invoke_of_unread numeric arity scalars given unread

theorem text_operand_decided_exponent :
    (Scalar.text " 1e ").toNumber = .error .value ∧
      Engine.call ⟨.standard, .standard⟩ "POWER" [some (logical true), some (text " 1e ")] =
        .ok (fault .value) := by
  have other : ∀ t x, Text.Trims " 1e ".toList t →
      ¬Decimal.ReadsLiteral t x ∧ ¬Decimal.ReadsWord t x := by
    intro t x trims
    have body : t = ['1', 'e'] := trims.strip_eq.symm
    rw [← not_or, ← Decimal.parse?_eq_some_iff, body]
    intro read
    cases read
  obtain ⟨unread, calls⟩ := (text_operand_decided " 1e ").2 other
  refine ⟨unread, calls .standard "POWER" power _ Engine.find?_power (by simp [functions])
    (Nat.le_refl 2) ?_ (by simp)⟩
  intro v hv
  simp only [List.mem_cons, Option.some.injEq, List.not_mem_nil, or_false] at hv
  rcases hv with rfl | rfl
  · exact ⟨_, rfl⟩
  · exact ⟨_, rfl⟩

/-- Decimal literals do not make up every text that counts as a number: the words do so too. -/
theorem text_nan_counts :
    ¬∀ s : String, (∃ x, (Scalar.text s).toNumber = .ok x) ↔
      ∃ t x, Text.Trims s.toList t ∧ Decimal.ReadsLiteral t x := by
  intro plain
  obtain ⟨t, x, trims, literal⟩ := (plain "nan").1 ⟨_, rfl⟩
  have body : t = ['n', 'a', 'n'] := trims.strip_eq.symm
  obtain ⟨l, read, -⟩ := Decimal.readsLiteral_iff.1 literal
  rw [body] at read
  cases read

end Arithmetic

end Worksheet
