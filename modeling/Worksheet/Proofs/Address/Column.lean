import Mathlib.Data.List.Basic
import Worksheet.Address.Column

/-! Column letters as numbers in bijective base 26. Reading accepts the letters of either case whose
number does not go beyond the last column, and the letters of a column number stand for it. -/

namespace Worksheet.Column

variable {c : Char} {cs : List Char} {n m : Nat}

def numberFrom (n : Nat) (cs : List Char) : Nat := cs.foldl (fun n c => n * 26 + digit c) n

theorem le_numberFrom (n : Nat) (cs : List Char) : n ≤ numberFrom n cs := by
  induction cs generalizing n with
  | nil => exact Nat.le_refl n
  | cons c cs ih =>
    have step := ih (n * 26 + digit c)
    change n ≤ numberFrom (n * 26 + digit c) cs
    omega

/-- No letter before the last one can take the number further than all of them do. -/
theorem extend_eq_ok_iff (hn : n ≤ columnLimit) :
    extend n cs = .ok m ↔
      (∀ c ∈ cs, c.isAlpha = true) ∧ numberFrom n cs = m ∧ m ≤ columnLimit := by
  induction cs generalizing n with
  | nil =>
    simp only [extend, Except.ok.injEq, List.not_mem_nil, false_implies, implies_true, true_and]
    constructor
    · rintro rfl
      exact ⟨rfl, hn⟩
    · rintro ⟨same, -⟩
      exact same
  | cons c cs ih =>
    have grows := le_numberFrom (n * 26 + digit c) cs
    rw [extend]
    split
    · rename_i letter
      split
      · rename_i beyond
        simp only [reduceCtorEq, false_iff]
        rintro ⟨-, rfl, le⟩
        exact absurd (Nat.le_trans grows le) (Nat.not_le.2 beyond)
      · rename_i within
        rw [ih (Nat.not_lt.1 within), List.forall_mem_cons]
        simp only [letter, true_and]
        rfl
    · rename_i other
      simp only [reduceCtorEq, List.forall_mem_cons, other, false_and]

theorem numberFrom_append (n : Nat) (cs ds : List Char) :
    numberFrom n (cs ++ ds) = numberFrom (numberFrom n cs) ds :=
  List.foldl_append

theorem numberFrom_concat (n : Nat) (cs : List Char) (c : Char) :
    numberFrom n (cs ++ [c]) = numberFrom n cs * 26 + digit c :=
  numberFrom_append n cs [c]

theorem toNat_lt_of_isAlpha (h : c.isAlpha = true) : c.toNat < 123 := by
  change (decide ('A'.val ≤ c.val ∧ c.val ≤ 'Z'.val) ||
    decide ('a'.val ≤ c.val) && decide (c.val ≤ 'z'.val)) = true at h
  simp only [Bool.or_eq_true, Bool.and_eq_true, decide_eq_true_eq, UInt32.le_iff_toNat_le] at h
  change 65 ≤ c.toNat ∧ c.toNat ≤ 90 ∨ 97 ≤ c.toNat ∧ c.toNat ≤ 122 at h
  omega

theorem digit_of_isAlpha (h : c.isAlpha = true) :
    0 < digit c ∧ digit c ≤ 26 ∧ c.toUpper = Char.ofNat (64 + digit c) := by
  have each : ∀ n < 123, (Char.ofNat n).isAlpha = true →
      0 < digit (Char.ofNat n) ∧ digit (Char.ofNat n) ≤ 26 ∧
        (Char.ofNat n).toUpper = Char.ofNat (64 + digit (Char.ofNat n)) := by decide
  have here := each c.toNat (toNat_lt_of_isAlpha h)
  rw [Char.ofNat_toNat] at here
  exact here h

theorem numberFrom_pos (h : ∀ c ∈ cs, c.isAlpha = true) (hcs : cs ≠ []) : 0 < numberFrom n cs := by
  cases cs with
  | nil => exact absurd rfl hcs
  | cons c cs =>
    have pos := (digit_of_isAlpha (h c List.mem_cons_self)).1
    have grows := le_numberFrom (n * 26 + digit c) cs
    change 0 < numberFrom (n * 26 + digit c) cs
    omega

theorem digit_ofNat (h : n < 26) : digit (Char.ofNat (65 + n)) = n + 1 := by
  have each : ∀ n < 26, digit (Char.ofNat (65 + n)) = n + 1 := by decide
  exact each n h

theorem isAlpha_ofNat (h : n < 26) : (Char.ofNat (65 + n)).isAlpha = true := by
  have each : ∀ n < 26, (Char.ofNat (65 + n)).isAlpha = true := by decide
  exact each n h

theorem letters_ne_nil (n : Nat) : letters (n + 1) ≠ [] := by
  rw [letters_succ]
  exact List.append_ne_nil_of_right_ne_nil _ (List.cons_ne_nil _ _)

theorem isAlpha_of_mem_letters (h : c ∈ letters n) : c.isAlpha = true := by
  induction n using Nat.strongRecOn with
  | ind n ih =>
    cases n with
    | zero => simp at h
    | succ n =>
      rw [letters_succ, List.mem_append, List.mem_singleton] at h
      rcases h with leading | rfl
      · exact ih (n / 26) (by omega) leading
      · exact isAlpha_ofNat (Nat.mod_lt n (by omega))

@[simp] theorem numberFrom_letters (n : Nat) : numberFrom 0 (letters n) = n := by
  induction n using Nat.strongRecOn with
  | ind n ih =>
    cases n with
    | zero => rw [letters_zero]; rfl
    | succ n =>
      have leading : numberFrom 0 (letters (n / 26)) = n / 26 := ih (n / 26) (by omega)
      have last := digit_ofNat (Nat.mod_lt n (by omega : 0 < 26))
      rw [letters_succ, numberFrom_concat, leading, last]
      omega

theorem ofLetters_eq_ok_iff {col : UInt16} :
    ofLetters cs = .ok col ↔
      (∀ c ∈ cs, c.isAlpha = true) ∧ numberFrom 0 cs = col.toNat + 1 ∧
        col.toNat < columnLimit := by
  constructor
  · intro h
    rw [ofLetters] at h
    split at h
    · cases h
    · rename_i some
      cases read : extend 0 cs with
      | error e =>
        rw [read] at h
        cases h
      | ok n =>
        rw [read] at h
        cases h
        obtain ⟨letters, rfl, le⟩ := (extend_eq_ok_iff (Nat.zero_le _)).1 read
        have pos := numberFrom_pos (n := 0) letters some
        simp only [columnLimit, UInt16.toNat_ofNat'] at le ⊢
        exact ⟨letters, by omega, by omega⟩
  · rintro ⟨letters, number, lt⟩
    have read : extend 0 cs = .ok (col.toNat + 1) :=
      (extend_eq_ok_iff (Nat.zero_le _)).2 ⟨letters, number, lt⟩
    have some : cs ≠ [] := by
      rintro rfl
      cases number
    rw [ofLetters, if_neg some, read]
    exact congrArg Except.ok (by simp)

end Worksheet.Column
