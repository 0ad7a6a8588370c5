/-! Vectors filled by a rule that may refuse. The indices are visited in rising order, and the first
refusal ends the collection. Main statement: a collection succeeds with a vector exactly when the
rule gives each of its entries. -/

namespace Worksheet

variable {ε α : Type}

theorem map_eq_ok_iff {β : Type} {f : α → β} {x : Except ε α} {b : β} :
    x.map f = .ok b ↔ ∃ a, x = .ok a ∧ f a = b := by
  cases x <;> simp [Except.map]

/-- The results of a rule at `n` successive indices, written after those already collected, or the
first refusal. -/
@[specialize] def collectFrom (f : Nat → Except ε α) : Nat → Array α → Except ε (Array α)
  | 0, done => .ok done
  | n + 1, done =>
    match f done.size with
    | .ok a => collectFrom f n (done.push a)
    | .error e => .error e

theorem size_of_collectFrom {f : Nat → Except ε α} {n : Nat} {done out : Array α}
    (h : collectFrom f n done = .ok out) : out.size = done.size + n := by
  induction n generalizing done with
  | zero => cases h; rfl
  | succ n ih =>
    rw [collectFrom] at h
    split at h
    · rw [ih h, Array.size_push]; omega
    · cases h

@[inline] def collect (f : Nat → Except ε α) (n : Nat) : Except ε (Vector α n) :=
  match h : collectFrom f n #[] with
  | .ok out => .ok ⟨out, by simpa using size_of_collectFrom h⟩
  | .error e => .error e

theorem getElem?_of_collectFrom {f : Nat → Except ε α} {n : Nat} {done out : Array α}
    (h : collectFrom f n done = .ok out) {i : Nat} (hi : i < done.size) : out[i]? = done[i]? := by
  induction n generalizing done with
  | zero => cases h; rfl
  | succ n ih =>
    rw [collectFrom] at h
    split at h
    · rw [ih h (by rw [Array.size_push]; omega), Array.getElem?_push]
      split
      · omega
      · rfl
    · cases h

theorem ok_of_collectFrom {f : Nat → Except ε α} {n : Nat} {done out : Array α}
    (h : collectFrom f n done = .ok out) {i : Nat} (hi : done.size ≤ i) (hn : i < done.size + n) :
    ∃ a, f i = .ok a ∧ out[i]? = some a := by
  induction n generalizing done with
  | zero => omega
  | succ n ih =>
    rw [collectFrom] at h
    split at h
    · rename_i a ha
      by_cases hs : i = done.size
      · subst hs
        exact ⟨a, ha, by rw [getElem?_of_collectFrom h (by simp)]; simp⟩
      · exact ih h (by simp; omega) (by simp; omega)
    · cases h

theorem exists_collectFrom {f : Nat → Except ε α} {n : Nat} {done : Array α}
    (h : ∀ i, done.size ≤ i → i < done.size + n → ∃ a, f i = .ok a) :
    ∃ out, collectFrom f n done = .ok out := by
  induction n generalizing done with
  | zero => exact ⟨done, rfl⟩
  | succ n ih =>
    obtain ⟨a, ha⟩ := h done.size (by omega) (by omega)
    rw [collectFrom, ha]
    exact ih fun i hi hn => h i (by simp at hi; omega) (by simp at hn; omega)

theorem collect_eq_ok_of_collectFrom {f : Nat → Except ε α} {n : Nat} {out : Array α}
    (h : collectFrom f n #[] = .ok out) (hs : out.size = n) : collect f n = .ok ⟨out, hs⟩ := by
  unfold collect
  split
  · rename_i out' h'
    cases h.symm.trans h'
    rfl
  · rename_i e h'
    cases h.symm.trans h'

theorem collect_eq_ok_iff {f : Nat → Except ε α} {n : Nat} {v : Vector α n} :
    collect f n = .ok v ↔ ∀ i : Fin n, f i = .ok (v.get i) := by
  constructor
  · intro h i
    unfold collect at h
    split at h
    · rename_i out hout
      cases h
      obtain ⟨a, ha, hi⟩ := ok_of_collectFrom hout (i := i.val) (by simp) (by simp)
      rw [ha]
      have := Array.getElem?_eq_some_iff.1 hi
      exact congrArg Except.ok this.2.symm
    · cases h
  · intro h
    have : ∃ out, collectFrom f n #[] = .ok out :=
      exists_collectFrom fun i _ hn => ⟨_, h ⟨i, by simpa using hn⟩⟩
    obtain ⟨out, hout⟩ := this
    have hs : out.size = n := by simpa using size_of_collectFrom hout
    rw [collect_eq_ok_of_collectFrom hout hs]
    congr 1
    apply Vector.ext
    intro i hi
    obtain ⟨a, ha, ho⟩ := ok_of_collectFrom hout (i := i) (by simp) (by simpa using hi)
    have := (h ⟨i, hi⟩).symm.trans ha
    rw [← Except.ok.inj this] at ho
    exact (Array.getElem?_eq_some_iff.1 ho).2

end Worksheet
