import Mathlib.Data.List.Basic
import Mathlib.Data.Nat.Bitwise
import Worksheet.Text.Upper

/-! An upper-case text is its own upper case. Characters below `a` are not changed, and neither is
any character that the mapping yields: the code points in the tables that are mapped and those that
are yielded are kept as the bits of two numbers, which have no bit in common. -/

namespace Worksheet.Text.Upper

theorem mem_of_lookup {n : Nat} {targets : List Nat} (h : expansions.lookup n = some targets) :
    (n, targets) ∈ expansions := by
  obtain ⟨before, after, split, -⟩ := List.lookup_eq_some_iff.1 h
  rw [split]
  exact List.mem_append_right _ List.mem_cons_self

theorem codes_eq_singleton {n : Nat} (single : n ∉ expansions.map Prod.fst)
    (uncovered : ∀ r ∈ runs, r.covers n = false) : codes n = [n] := by
  have lookup : expansions.lookup n = none := by
    rw [List.lookup_eq_none_iff]
    intro p hp
    rw [bne_iff_ne]
    rintro rfl
    exact single (List.mem_map_of_mem hp)
  have find : runs.find? (·.covers n) = none := by
    rw [List.find?_eq_none]
    intro r hr
    simp [uncovered r hr]
  simp only [codes, lookup, find]

theorem ofChar_of_lt {c : Char} (h : c.toNat < 97) : ofChar c = [c] := by
  have keys : ∀ p ∈ expansions, 97 ≤ p.1 := by decide
  have starts : ∀ r ∈ runs, 97 ≤ r.first := by decide +kernel
  have fixed : codes c.toNat = [c.toNat] := by
    apply codes_eq_singleton
    · intro mem
      obtain ⟨p, hp, same⟩ := List.mem_map.1 mem
      have := keys p hp
      omega
    · intro r hr
      have := starts r hr
      simp only [Run.covers, Bool.and_eq_false_iff, decide_eq_false_iff_not]
      omega
  rw [ofChar, fixed, List.map_singleton, Char.ofNat_toNat]

def Run.points (r : Run) (start : Nat) : List Nat :=
  (List.range ((r.last - r.first) / r.stride + 1)).map fun i => start + r.stride * i

def sources : List Nat := runs.flatMap (fun r => r.points r.first) ++ expansions.map Prod.fst

def targets : List Nat := runs.flatMap (fun r => r.points r.target) ++ expansions.flatMap Prod.snd

theorem Run.mem_points {r : Run} {n : Nat} (h : r.covers n = true) (start : Nat) :
    start + (n - r.first) ∈ r.points start := by
  simp only [covers, Bool.and_eq_true, decide_eq_true_eq, beq_iff_eq] at h
  obtain ⟨⟨-, last⟩, aligned⟩ := h
  have steps : r.stride * ((n - r.first) / r.stride) = n - r.first :=
    Nat.mul_div_cancel' (Nat.dvd_of_mod_eq_zero aligned)
  refine List.mem_map.2 ⟨(n - r.first) / r.stride, List.mem_range.2 ?_, by rw [steps]⟩
  exact Nat.lt_succ_of_le (Nat.div_le_div_right (by omega))

theorem codes_of_not_mem_sources {n : Nat} (h : n ∉ sources) : codes n = [n] := by
  rw [sources, List.mem_append, not_or] at h
  refine codes_eq_singleton h.2 fun r hr => Bool.eq_false_iff.2 fun covers => h.1 ?_
  have mem := r.mem_points covers r.first
  simp only [Run.covers, Bool.and_eq_true, decide_eq_true_eq] at covers
  rw [Nat.add_sub_cancel' covers.1.1] at mem
  exact List.mem_flatMap.2 ⟨r, hr, mem⟩

theorem mem_targets_or_eq {n m : Nat} (h : m ∈ codes n) : m ∈ targets ∨ codes m = [m] := by
  rw [codes] at h
  split at h
  next ms found =>
    exact .inl (List.mem_append_right _ (List.mem_flatMap.2 ⟨_, mem_of_lookup found, h⟩))
  next unlisted =>
    split at h
    next r found =>
      rw [List.mem_singleton.1 h]
      have hr := List.mem_of_find?_eq_some found
      have covers : r.covers n = true := by simpa using List.find?_some found
      have mem := r.mem_points covers r.target
      exact .inl (List.mem_append_left _ (List.mem_flatMap.2 ⟨r, hr, mem⟩))
    next uncovered =>
      rw [List.mem_singleton.1 h]
      exact .inr (by simp only [codes, unlisted, uncovered])

def bits (ns : List Nat) : Nat := ns.foldr (fun n m => m ||| 1 <<< n) 0

theorem testBit_bits {ns : List Nat} {n : Nat} (h : n ∈ ns) : (bits ns).testBit n = true := by
  induction ns with
  | nil => cases h
  | cons k ns ih =>
    rw [bits, List.foldr_cons, Nat.testBit_or, Bool.or_eq_true]
    rcases List.mem_cons.1 h with rfl | h
    · exact .inr (by simp)
    · exact .inl (ih h)

/-- One conjunction of two numbers takes the place of a comparison for every pair of code points. -/
theorem bits_sources_and_targets : bits sources &&& bits targets = 0 := by decide +kernel

theorem not_mem_sources {n : Nat} (h : n ∈ targets) : n ∉ sources := by
  intro mem
  have common : (bits sources &&& bits targets).testBit n = true := by
    rw [Nat.testBit_and, testBit_bits mem, testBit_bits h, Bool.and_self]
  rw [bits_sources_and_targets, Nat.zero_testBit] at common
  exact Bool.false_ne_true common

theorem codes_of_mem_codes {n m : Nat} (h : m ∈ codes n) : codes m = [m] := by
  rcases mem_targets_or_eq h with target | fixed
  · exact codes_of_not_mem_sources (not_mem_sources target)
  · exact fixed

theorem ofChar_of_mem_ofChar {c d : Char} (h : d ∈ ofChar c) : ofChar d = [d] := by
  obtain ⟨m, mem, rfl⟩ := List.mem_map.1 h
  by_cases valid : m.isValidChar
  · have code : (Char.ofNat m).toNat = m := by
      rw [Char.ofNat, dif_pos valid]
      rfl
    rw [ofChar, code, codes_of_mem_codes mem, List.map_singleton]
  · refine ofChar_of_lt ?_
    rw [Char.ofNat, dif_neg valid]
    decide

end Worksheet.Text.Upper

namespace Worksheet.Text

theorem upper_eq_self {s : String} (h : ∀ c ∈ s.toList, Upper.ofChar c = [c]) : upper s = s := by
  rw [upper, List.flatMap_congr h, List.flatMap_singleton', String.ofList_toList]

theorem upper_of_lt {s : String} (h : ∀ c ∈ s.toList, c.toNat < 97) : upper s = s :=
  upper_eq_self fun c hc => Upper.ofChar_of_lt (h c hc)

theorem upper_upper (s : String) : upper (upper s) = upper s := by
  refine upper_eq_self fun d hd => ?_
  rw [toList_upper] at hd
  obtain ⟨c, -, mem⟩ := List.mem_flatMap.1 hd
  exact Upper.ofChar_of_mem_ofChar mem

end Worksheet.Text
