import Worksheet.Proofs.AnswerKinds

/-! The information predicates as a partition. Five of them ask for the kinds of items, and two more
part the failures. Main statement: over any operand they are refused together for its cells, and
otherwise of the five exactly one holds at each place of it, and of the two exactly one where the
operand fails. -/

namespace Worksheet

theorem commonExtent_singleton (v : Value) : commonExtent [v] = v.extent := by
  have pos : 0 < v.extent.rows ∧ 0 < v.extent.cols := by
    rcases v with i | g
    · exact ⟨Nat.one_pos, Nat.one_pos⟩
    · exact ⟨g.rows_pos, g.cols_pos⟩
  exact (isCommon_iff.1 ⟨pos.1, pos.2, by simp, fun f _ _ holds => holds v List.mem_cons_self⟩).symm

namespace Information

open Value

def kinds : List (String × (Value → Bool)) :=
  [("ISBLANK", isBlank), ("ISNUMBER", isNumber), ("ISTEXT", isText), ("ISLOGICAL", isLogical),
    ("ISERROR", isFailure)]

def predicates : List (String × (Value → Bool)) :=
  kinds ++ [("ISERR", isOtherFailure), ("ISNA", isNotAvailable)]

def telling : Item → String
  | .scalar .blank => "ISBLANK"
  | .scalar (.number _) => "ISNUMBER"
  | .scalar (.text _) => "ISTEXT"
  | .scalar (.logical _) => "ISLOGICAL"
  | .failure _ => "ISERROR"

variable {name : String} {holds : Value → Bool}

theorem holds_eq (mem : (name, holds) ∈ kinds) (a : Item) :
    holds (.item a) = (name == telling a) := by
  simp only [kinds, List.mem_cons, Prod.mk.injEq, List.not_mem_nil, or_false] at mem
  rcases mem with ⟨rfl, rfl⟩ | ⟨rfl, rfl⟩ | ⟨rfl, rfl⟩ | ⟨rfl, rfl⟩ | ⟨rfl, rfl⟩
  all_goals rcases a with (_ | x | b | s) | e <;> rfl

theorem telling_mem (a : Item) : telling a ∈ kinds.map Prod.fst := by
  rcases a with (_ | x | b | s) | e
  all_goals simp [kinds, telling]

theorem isOtherFailure_iff {v : Value} :
    isOtherFailure v = true ↔ v.isFailure = true ∧ ¬isNotAvailable v = true := by
  simp [isOtherFailure, isNotAvailable]

theorem not_isOtherFailure_and_isNotAvailable (v : Value) :
    ¬(isOtherFailure v = true ∧ isNotAvailable v = true) :=
  fun both => (isOtherFailure_iff.1 both.1).2 both.2

theorem isFailure_of_isNotAvailable {v : Value} (h : isNotAvailable v = true) :
    v.isFailure = true := by
  rcases v with (s | e) | g
  · cases h
  · rfl
  · cases h

theorem isFailure_iff_xor (v : Value) :
    v.isFailure = true ↔ Xor (isOtherFailure v = true) (isNotAvailable v = true) := by
  rw [Xor, isOtherFailure_iff]
  constructor
  · intro failed
    by_cases missing : isNotAvailable v = true
    · exact .inr ⟨missing, fun other => other.2 missing⟩
    · exact .inl ⟨⟨failed, missing⟩, missing⟩
  · rintro (⟨other, -⟩ | ⟨missing, -⟩)
    · exact other.1
    · exact isFailure_of_isNotAvailable missing

theorem predicate_mem (mem : (name, holds) ∈ predicates) :
    predicate name holds ∈ Catalog.standardFunctions := by
  refine List.mem_append_left _ (List.mem_append_right _ ?_)
  simp only [predicates, kinds, List.cons_append, List.nil_append, List.mem_cons, Prod.mk.injEq,
    List.not_mem_nil, or_false] at mem
  rcases mem with ⟨rfl, rfl⟩ | ⟨rfl, rfl⟩ | ⟨rfl, rfl⟩ | ⟨rfl, rfl⟩ | ⟨rfl, rfl⟩ | ⟨rfl, rfl⟩ |
    ⟨rfl, rfl⟩
  all_goals simp [functions]

end Information

namespace Engine

open Information

variable {settings : Settings} {x : Value} {name : String} {holds : Value → Bool} {r c : Nat}

theorem admits_predicate : (predicate name holds).signature.Admits [some x] [x] :=
  ⟨Nat.le_refl 1, rfl, rfl⟩

theorem call_predicate_of_refuses (mem : (name, holds) ∈ predicates)
    (refused : settings.Refuses x.extent) :
    call ⟨.standard, settings⟩ name [some x] = .ok (.fault .spill) := by
  rw [← commonExtent_singleton] at refused
  exact (call_of_mem (predicate_mem mem) _).trans
    (Elementwise.invoke_of_refuses rfl admits_predicate refused)

theorem call_predicate (mem : (name, holds) ∈ predicates) (kept : ¬settings.Refuses x.extent) :
    ∃ v, call ⟨.standard, settings⟩ name [some x] = .ok v ∧ v.Covers x.extent fun r c i =>
      ∃ a, x.get? r c = some a ∧ i = .scalar (.logical (holds (.item a))) := by
  rw [← commonExtent_singleton] at kept
  obtain ⟨v, answer, covers⟩ :=
    (Elementwise.ruled_predicate name holds).invoke_covers rfl admits_predicate kept
  rw [Elementwise.CoversRule, commonExtent_singleton] at covers
  refine ⟨v, (call_of_mem (predicate_mem mem) _).trans answer, covers.imp ?_⟩
  intro r c i hr hc rule
  cases rule
  exact ⟨_, Value.get?_of_lt hr hc, rfl⟩

theorem call_predicate_isLogical (mem : (name, holds) ∈ predicates)
    (kept : ¬settings.Refuses x.extent) :
    ∃ v, call ⟨.standard, settings⟩ name [some x] = .ok v ∧
      v.Covers x.extent fun _ _ i => i.IsLogical := by
  obtain ⟨v, answer, covers⟩ := call_predicate mem kept
  refine ⟨v, answer, covers.imp ?_⟩
  rintro r c i - - ⟨a, -, rfl⟩
  exact .logical _

theorem call_predicate_eq_spill_iff (mem : (name, holds) ∈ predicates) :
    call ⟨.standard, settings⟩ name [some x] = .ok (.fault .spill) ↔
      settings.Refuses x.extent := by
  refine ⟨fun spilled => ?_, call_predicate_of_refuses mem⟩
  by_contra kept
  obtain ⟨v, answer, covers⟩ := call_predicate_isLogical mem kept
  cases spilled.symm.trans answer
  have logical : (Item.fault .spill).IsLogical :=
    Value.each_item.1 (covers.each fun _ _ _ told => told)
  cases logical

/-- A call of the function with the operand has the answer that it is true at the place. -/
def Tells (settings : Settings) (x : Value) (r c : Nat) (name : String) : Prop :=
  ∃ v, call ⟨.standard, settings⟩ name [some x] = .ok v ∧
    v.get? r c = some (.scalar (.logical true))

theorem tells_iff (mem : (name, holds) ∈ predicates) (kept : ¬settings.Refuses x.extent)
    {a : Item} (here : x.get? r c = some a) :
    Tells settings x r c name ↔ holds (.item a) = true := by
  obtain ⟨v, answer, covers⟩ := call_predicate mem kept
  obtain ⟨hr, hc⟩ := Value.lt_of_get? here
  obtain ⟨i, shown, a', here', rfl⟩ := covers.get? hr hc
  cases here.symm.trans here'
  constructor
  · rintro ⟨w, answer', told⟩
    cases answer.symm.trans answer'
    simpa using shown.symm.trans told
  · intro holds
    exact ⟨v, answer, by rw [shown, holds]⟩

theorem tells_iff_telling (mem : name ∈ kinds.map Prod.fst) (kept : ¬settings.Refuses x.extent)
    {a : Item} (here : x.get? r c = some a) :
    Tells settings x r c name ↔ name = telling a := by
  obtain ⟨⟨name, holds⟩, kind, rfl⟩ := List.mem_map.1 mem
  have asked : Tells settings x r c name ↔ holds (.item a) = true :=
    tells_iff (List.mem_append_left _ kind) kept here
  rw [asked, holds_eq kind, beq_iff_eq]

theorem tells_partition (kept : ¬settings.Refuses x.extent) {a : Item}
    (here : x.get? r c = some a) :
    let tells := Tells settings x r c
    (∃! name, name ∈ kinds.map Prod.fst ∧ tells name) ∧
      (tells "ISERROR" ↔ Xor (tells "ISERR") (tells "ISNA")) ∧
      ¬(tells "ISERR" ∧ tells "ISNA") := by
  intro tells
  have failed : tells "ISERROR" ↔ (Value.item a).isFailure = true :=
    tells_iff (by simp [predicates, kinds]) kept here
  have other : tells "ISERR" ↔ isOtherFailure (.item a) = true :=
    tells_iff (by simp [predicates]) kept here
  have unavailable : tells "ISNA" ↔ isNotAvailable (.item a) = true :=
    tells_iff (by simp [predicates]) kept here
  refine ⟨⟨telling a, ⟨telling_mem a, (tells_iff_telling (telling_mem a) kept here).2 rfl⟩, ?_⟩,
    ?_, ?_⟩
  · rintro name ⟨mem, told⟩
    exact (tells_iff_telling mem kept here).1 told
  · rw [failed, other, unavailable]
    exact isFailure_iff_xor _
  · rw [other, unavailable]
    exact not_isOtherFailure_and_isNotAvailable _

/-- The five predicates on kinds and the two on failures are refused together, for an operand of too
many cells. Otherwise they cover the operand with truth. At each place exactly one of the five
holds, and the one on failures holds where exactly one of the two does, which never hold together.
-/
theorem call_partition (settings : Settings) (x : Value) :
    let names := ["ISBLANK", "ISNUMBER", "ISTEXT", "ISLOGICAL", "ISERROR"]
    (∀ name ∈ names ++ ["ISERR", "ISNA"],
      (call ⟨.standard, settings⟩ name [some x] = .ok (.fault .spill) ↔
        settings.Refuses x.extent) ∧
      (¬settings.Refuses x.extent → ∃ v, call ⟨.standard, settings⟩ name [some x] = .ok v ∧
        v.Covers x.extent fun _ _ i => i.IsLogical)) ∧
    (¬settings.Refuses x.extent → ∀ r c, r < x.extent.rows → c < x.extent.cols →
      let tells := Tells settings x r c
      (∃! name, name ∈ names ∧ tells name) ∧
      (tells "ISERROR" ↔ Xor (tells "ISERR") (tells "ISNA")) ∧
      ¬(tells "ISERR" ∧ tells "ISNA")) := by
  intro names
  constructor
  · intro name named
    obtain ⟨⟨name, holds⟩, mem, rfl⟩ : ∃ p ∈ predicates, p.1 = name := List.mem_map.1 named
    exact ⟨call_predicate_eq_spill_iff mem, call_predicate_isLogical mem⟩
  · intro kept r c hr hc
    have here : x.get? r c = some (x.cellAt .blank .pad r c) := Value.get?_of_lt hr hc
    exact tells_partition kept here

theorem call_partition_row :
    let x : Value := .grid (Place.beside (.scalar (.text "")) (.failure ⟨.na, some "note"⟩))
    call ⟨.standard, ⟨.pad, 1⟩⟩ "ISTEXT" [some x] = .ok (.fault .spill) ∧
      ¬Tells .standard x 0 0 "ISBLANK" ∧
      (Tells .standard x 0 1 "ISERROR" ↔
        Xor (Tells .standard x 0 1 "ISERR") (Tells .standard x 0 1 "ISNA")) := by
  intro x
  have kept : ¬Settings.standard.Refuses x.extent := fun refused => absurd refused.2 (by decide)
  have here : x.get? 0 0 = some (.scalar (.text "")) := rfl
  have text : Tells .standard x 0 0 "ISTEXT" :=
    (tells_iff_telling (by simp [kinds]) kept here).2 rfl
  obtain ⟨refusals, -⟩ := call_partition ⟨.pad, 1⟩ x
  obtain ⟨-, places⟩ := call_partition .standard x
  obtain ⟨one, -⟩ := places kept 0 0 (by decide) (by decide)
  refine ⟨(refusals "ISTEXT" (by simp)).1.2 ⟨by decide, by decide⟩, fun blank => ?_,
    (places kept 0 1 (by decide) (by decide)).2.1⟩
  have same := one.unique ⟨by simp, blank⟩ ⟨by simp, text⟩
  exact absurd same (by decide)

end Engine

end Worksheet
