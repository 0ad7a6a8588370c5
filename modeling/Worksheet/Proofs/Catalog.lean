import Mathlib.Data.List.Nodup
import Worksheet.Engine
import Worksheet.Proofs.Call
import Worksheet.Proofs.Text.Upper

/-! What a catalog finds. Functions registered one after another are found by the upper case of
their names, the last one first. The standard catalog thus finds each of its functions by any
spelling of its name, and nothing else. -/

namespace Worksheet

namespace Catalog

theorem find?_foldl_register (fs : List SheetFunction) (c : Catalog) (name : String) :
    (fs.foldl register c).find? name =
      (fs.reverse.find? fun f => Text.upper f.signature.name = Text.upper name).or
        (c.find? name) := by
  induction fs generalizing c with
  | nil => rfl
  | cons f fs ih =>
    rw [List.foldl_cons, ih, find?_register, List.reverse_cons, List.find?_append, Option.or_assoc]
    refine congrArg _ ?_
    by_cases h : Text.upper f.signature.name = Text.upper name <;> simp [h]

def standardFunctions : List SheetFunction :=
  Logical.functions ++ Information.functions ++ Arithmetic.functions

theorem upper_of_mem_standardFunctions {f : SheetFunction} (h : f ∈ standardFunctions) :
    Text.upper f.signature.name = f.signature.name := by
  have all : (standardFunctions.all fun f =>
      f.signature.name.toList.all fun c => c.toNat < 97) = true := by rfl
  refine Text.upper_of_lt fun c hc => ?_
  have letters := List.all_eq_true.1 all f h
  exact of_decide_eq_true (List.all_eq_true.1 letters c hc)

theorem eq_of_mem_standardFunctions {f g : SheetFunction} (hf : f ∈ standardFunctions)
    (hg : g ∈ standardFunctions) (same : f.signature.name = g.signature.name) : f = g := by
  have distinct : (standardFunctions.map fun f => f.signature.name).Nodup := by decide
  exact List.inj_on_of_nodup_map distinct hf hg same

theorem mem_of_name {f : SheetFunction} {fs : List SheetFunction}
    (sub : fs ⊆ standardFunctions) (h : f ∈ standardFunctions)
    (named : f.signature.name ∈ fs.map fun f => f.signature.name) : f ∈ fs := by
  obtain ⟨g, hg, same⟩ := List.mem_map.1 named
  rwa [eq_of_mem_standardFunctions h (sub hg) same.symm]

theorem find?_standard (name : String) :
    standard.find? name = standardFunctions.reverse.find? fun f =>
      Text.upper f.signature.name = Text.upper name := by
  rw [standard, find?_foldl_register, find?_empty, Option.or_none]
  rfl

theorem named_of_find?_standard {name : String} {f : SheetFunction}
    (h : standard.find? name = some f) :
    f ∈ standardFunctions ∧ f.signature.name = Text.upper name := by
  rw [find?_standard] at h
  have mem := List.mem_reverse.1 (List.mem_of_find?_eq_some h)
  have same : Text.upper f.signature.name = Text.upper name := by simpa using List.find?_some h
  exact ⟨mem, (upper_of_mem_standardFunctions mem).symm.trans same⟩

theorem find?_standard_iff {name : String} {f : SheetFunction} :
    standard.find? name = some f ↔ f ∈ standardFunctions ∧ f.signature.name = Text.upper name := by
  constructor
  · exact named_of_find?_standard
  · rintro ⟨mem, named⟩
    cases h : standard.find? name with
    | none =>
      rw [find?_standard, List.find?_eq_none] at h
      have same := (upper_of_mem_standardFunctions mem).trans named
      exact absurd (decide_eq_true same) (h f (List.mem_reverse.2 mem))
    | some g =>
      obtain ⟨mem', named'⟩ := named_of_find?_standard h
      rw [eq_of_mem_standardFunctions mem' mem (named'.trans named.symm)]

theorem find?_of_mem {f : SheetFunction} (h : f ∈ standardFunctions) :
    standard.find? f.signature.name = some f :=
  find?_standard_iff.2 ⟨h, (upper_of_mem_standardFunctions h).symm⟩

theorem mem_names_iff {c : Catalog} {name : String} :
    Text.upper name ∈ c.names ↔ ∃ f, c.find? name = some f := by
  rw [names, Std.TreeMap.mem_keys, Std.TreeMap.mem_iff_isSome_getElem?, Option.isSome_iff_exists]
  rfl

theorem eq_conditional_or_every {f : SheetFunction} (h : f ∈ standardFunctions) :
    f = Logical.conditional ∨ f.signature.drive = .every := by
  have others : (standardFunctions.tail.all fun f => f.signature.drive = .every) = true := by rfl
  change f ∈ Logical.conditional :: standardFunctions.tail at h
  rcases List.mem_cons.1 h with rfl | h
  · exact .inl rfl
  · exact .inr (of_decide_eq_true (List.all_eq_true.1 others f h))

end Catalog

namespace Engine

variable {e : Engine} {settings : Settings} {name : String} {f : SheetFunction}

theorem call_of_find? (found : e.catalog.find? name = some f) (args : List (Option Value)) :
    e.call name args = f.invoke e.settings args := by
  simp only [call, found]

theorem call_of_unknown (unknown : e.catalog.find? name = none) (args : List (Option Value)) :
    e.call name args = .error (.unknownFunction name) := by
  simp only [call, unknown]

theorem call_standard (found : Catalog.standard.find? name = some f) (args : List (Option Value)) :
    call ⟨.standard, settings⟩ name args = f.invoke settings args :=
  @call_of_find? ⟨.standard, settings⟩ name f found args

theorem call_of_mem (h : f ∈ Catalog.standardFunctions) (args : List (Option Value)) :
    call ⟨.standard, settings⟩ f.signature.name args = f.invoke settings args :=
  call_standard (Catalog.find?_of_mem h) args

end Engine

end Worksheet
