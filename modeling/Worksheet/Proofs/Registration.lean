import Mathlib.Data.Finset.Card
import Worksheet.Proofs.Catalog
import Worksheet.Proofs.Text.Bytes

/-! What a catalog is after any registrations: the functions registered, each under the upper case
of its name, where the last one counts. The standard catalog is the one after the registrations of
its own functions, so registrations that start from it need no argument of their own. -/

namespace Worksheet.Catalog

def key (f : SheetFunction) : String := Text.upper f.signature.name

/-- The last of the functions that are entered under the upper case of a name. -/
def last? (fs : List SheetFunction) (name : String) : Option SheetFunction :=
  fs.reverse.find? fun f => key f = Text.upper name

theorem map_key_standardFunctions :
    standardFunctions.map key = standardFunctions.map fun f => f.signature.name :=
  List.map_congr_left fun _ => upper_of_mem_standardFunctions

def ofList (fs : List SheetFunction) : Catalog := fs.foldl register empty

theorem ofList_append (fs gs : List SheetFunction) :
    ofList (fs ++ gs) = gs.foldl register (ofList fs) :=
  List.foldl_append

theorem register_ofList (fs : List SheetFunction) (f : SheetFunction) :
    (ofList fs).register f = ofList (fs ++ [f]) := by
  rw [ofList_append, List.foldl_cons, List.foldl_nil]

theorem find?_ofList (fs : List SheetFunction) (name : String) :
    (ofList fs).find? name = last? fs name := by
  rw [ofList, find?_foldl_register, find?_empty, Option.or_none]
  rfl

theorem last?_append (fs gs : List SheetFunction) (name : String) :
    last? (fs ++ gs) name = (last? gs name).or (last? fs name) := by
  rw [last?, List.reverse_append, List.find?_append]
  rfl

theorem last?_eq_none_iff {fs : List SheetFunction} {name : String} :
    last? fs name = none ↔ Text.upper name ∉ fs.map key := by
  simp [last?]

theorem mem_names_register {c : Catalog} {f : SheetFunction} {name : String} :
    name ∈ (c.register f).names ↔ name ∈ c.names ∨ name = key f := by
  simp only [names, register, Std.TreeMap.mem_keys, Std.TreeMap.mem_insert, compare_eq_iff_eq]
  rw [or_comm, eq_comm]
  rfl

theorem mem_names_ofList {fs : List SheetFunction} {name : String} :
    name ∈ (ofList fs).names ↔ name ∈ fs.map key := by
  induction fs using List.reverseRecOn with
  | nil => simp [ofList, empty, names]
  | append_singleton fs f ih =>
    rw [← register_ofList, mem_names_register, ih, List.map_append, List.mem_append,
      List.map_singleton, List.mem_singleton]

theorem names_pairwise (c : Catalog) : c.names.Pairwise (· < ·) :=
  (Std.TreeMap.ordered_keys (t := c.functions)).imp compare_lt_iff_lt.1

theorem size_ofList (fs : List SheetFunction) :
    (ofList fs).size = (fs.map key).toFinset.card := by
  have distinct : (ofList fs).names.Nodup := (names_pairwise _).imp ne_of_lt
  have same : (ofList fs).names.toFinset = (fs.map key).toFinset := by
    ext name
    rw [List.mem_toFinset, List.mem_toFinset, mem_names_ofList]
  rw [← same, List.toFinset_card_of_nodup distinct, names, Std.TreeMap.length_keys]
  rfl

theorem isEmpty_iff {c : Catalog} : c.isEmpty = true ↔ c.size = 0 := by
  rw [isEmpty, size, Std.TreeMap.isEmpty_eq_size_eq_zero, beq_iff_eq]

theorem size_register_of_mem {fs : List SheetFunction} {f : SheetFunction}
    (h : key f ∈ fs.map key) : ((ofList fs).register f).size = (ofList fs).size := by
  rw [register_ofList, size_ofList, size_ofList, List.map_append, List.toFinset_append,
    List.map_singleton]
  refine congrArg _ (Finset.union_eq_left.2 ?_)
  simpa using h

theorem find?_of_mem_names {fs : List SheetFunction} {name : String}
    (h : name ∈ (ofList fs).names) : ∃ f, (ofList fs).find? name = some f := by
  obtain ⟨f, -, rfl⟩ := List.mem_map.1 (mem_names_ofList.1 h)
  rw [← mem_names_iff, key, Text.upper_upper]
  exact h

inductive Start where
  | empty
  | standard

namespace Start

def catalog : Start → Catalog
  | empty => Catalog.empty
  | standard => Catalog.standard

def functions : Start → List SheetFunction
  | empty => []
  | standard => standardFunctions

theorem foldl_register (start : Start) (fs : List SheetFunction) :
    fs.foldl register start.catalog = ofList (start.functions ++ fs) := by
  cases start <;> rw [ofList_append] <;> rfl

end Start

/-- After any registrations, a name finds the last function registered under its upper case, or the
one that was there under it, and a call by the name runs this function. The names of the catalog are
the upper-case names of all these functions, each once and in the order of their bytes, and each
finds a function. Registering a function whose upper-case name is there leaves their number, and a
name with another upper case finds what it found. -/
theorem registered (start : Start) (fs : List SheetFunction) :
    let c := fs.foldl register start.catalog
    let all := start.functions ++ fs
    (∀ name, c.find? name = (last? fs name).or (last? start.functions name)) ∧
      (∀ settings name args, Engine.call ⟨c, settings⟩ name args =
        match (last? fs name).or (last? start.functions name) with
        | some f => f.invoke settings args
        | none => .error (.unknownFunction name)) ∧
      c.size = (all.map key).toFinset.card ∧ (c.isEmpty = true ↔ c.size = 0) ∧
      (∀ name, name ∈ c.names ↔ ∃ f ∈ all, key f = name) ∧
      (c.names.map Text.bytes).Pairwise (· < ·) ∧
      (∀ name ∈ c.names, ∃ f, c.find? name = some f) ∧
      ∀ f, ((∃ g ∈ all, key g = key f) → (c.register f).size = c.size) ∧
        ∀ name, Text.upper name ≠ key f → (c.register f).find? name = c.find? name := by
  intro c all
  have made : c = ofList all := start.foldl_register fs
  have finds (name : String) : c.find? name = (last? fs name).or (last? start.functions name) := by
    rw [made, find?_ofList, last?_append]
  refine ⟨finds, fun settings name args => ?_, ?_, isEmpty_iff, fun name => ?_, ?_, ?_,
    fun f => ⟨fun known => ?_, fun name other => ?_⟩⟩
  · rw [← finds]
    rfl
  · rw [made, size_ofList]
  · rw [made, mem_names_ofList, List.mem_map]
  · exact List.pairwise_map.2 (c.names_pairwise.imp Text.bytes_lt)
  · rw [made]
    exact fun name => find?_of_mem_names
  · rw [made]
    exact size_register_of_mem (List.mem_map.2 known)
  · exact (find?_register c f name).trans (if_neg other.symm)

theorem registered_street :
    let one := SheetFunction.constant "abs" (.logical true)
    let two := SheetFunction.constant "Straße" (.logical false)
    let three := SheetFunction.constant "Abs" (.logical false)
    let c := [one, two, three].foldl register Start.standard.catalog
    c.find? "aBS" = some three ∧ c.find? "strasse" = some two ∧
      (∀ settings args,
        Engine.call ⟨c, settings⟩ "Gasse" args = .error (.unknownFunction "Gasse")) ∧
      c.size = 21 ∧ (∃ f, c.find? "STRASSE" = some f) ∧
      (c.register (.constant "STRASSE" (.logical true))).size = 21 ∧
      (c.register (.constant "STRASSE" (.logical true))).find? "aBS" = some three := by
  intro one two three c
  obtain ⟨finds, calls, size, -, names, -, known, register⟩ :=
    registered .standard [one, two, three]
  have keys : (Start.standard.functions ++ [one, two, three]).map key =
      (standardFunctions.map fun f => f.signature.name) ++ ["ABS", "STRASSE", "ABS"] := by
    rw [List.map_append, Start.functions, map_key_standardFunctions]
    exact congrArg _ (by decide +kernel)
  have abs : key three = Text.upper "aBS" := by decide +kernel
  have strasse : key two = Text.upper "strasse" := by decide +kernel
  have apart : key three ≠ key two := by decide +kernel
  have gasse : last? (Start.standard.functions ++ [one, two, three]) "Gasse" = none := by
    rw [last?_eq_none_iff, keys]
    decide +kernel
  have listed : "STRASSE" ∈ c.names := (names "STRASSE").2 ⟨two, by simp, by decide +kernel⟩
  have found : c.find? "aBS" = some three := (finds "aBS").trans (by simp [last?, ← abs])
  have count : c.size = 21 := by
    rw [size, keys]
    decide +kernel
  obtain ⟨same, others⟩ := register (.constant "STRASSE" (.logical true))
  refine ⟨found, ?_, fun settings args => ?_, count, known _ listed, ?_, ?_⟩
  · exact (finds "strasse").trans (by simp [last?, ← strasse, apart])
  · rw [last?_append] at gasse
    exact (calls settings "Gasse" args).trans (by rw [gasse])
  · exact (same ⟨two, by simp, by decide +kernel⟩).trans count
  · exact (others "aBS" (by decide +kernel)).trans found

end Worksheet.Catalog
