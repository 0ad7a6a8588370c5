import Worksheet.Text.Basic

/-! What trimming leaves of a text. It is the part between two runs of blanks that has no blank at
either end, and a text has one such part. -/

namespace Worksheet.Text

/-- The text is this part with blanks before and after it, and the part has no blank at its ends. -/
structure Trims (cs body : List Char) : Prop where
  cut : ∃ before after, cs = before ++ body ++ after ∧ (∀ c ∈ before, isBlank c = true) ∧
    ∀ c ∈ after, isBlank c = true
  first : ∀ c ∈ body.head?, isBlank c = false
  last : ∀ c ∈ body.getLast?, isBlank c = false

variable {cs body : List Char}

theorem span_append {p : Char → Bool} {run rest : List Char} (inside : ∀ c ∈ run, p c = true)
    (stop : ∀ c ∈ rest.head?, p c = false) :
    (run ++ rest).takeWhile p = run ∧ (run ++ rest).dropWhile p = rest := by
  rw [List.takeWhile_append_of_pos inside, List.dropWhile_append_of_pos inside]
  cases rest with
  | nil => exact ⟨List.append_nil _, rfl⟩
  | cons c rest =>
    have first : ¬p c = true := by
      rw [stop c rfl]
      decide
    rw [List.takeWhile_cons_of_neg first, List.dropWhile_cons_of_neg first, List.append_nil]
    exact ⟨rfl, rfl⟩

theorem isBlank_of_mem_takeWhile : ∀ c ∈ cs.takeWhile isBlank, isBlank c = true :=
  List.all_eq_true.1 List.all_takeWhile

theorem isBlank_head?_dropBlank (cs : List Char) :
    ∀ c ∈ (dropBlank cs).head?, isBlank c = false := by
  intro c hc
  have stop := List.head?_dropWhile_not isBlank cs
  have first : (cs.dropWhile isBlank).head? = some c := hc
  rw [first] at stop
  exact stop

theorem dropBlank_append {before : List Char} (h : ∀ c ∈ before, isBlank c = true)
    (rest : List Char) : dropBlank (before ++ rest) = dropBlank rest :=
  List.dropWhile_append_of_pos h

theorem dropBlank_eq_strip_append (cs : List Char) :
    dropBlank cs = strip cs ++ ((dropBlank cs).reverse.takeWhile isBlank).reverse := by
  have cut : (dropBlank cs).reverse.takeWhile isBlank ++ dropBlank (dropBlank cs).reverse =
      (dropBlank cs).reverse := List.takeWhile_append_dropWhile
  rw [strip, ← List.reverse_append, cut, List.reverse_reverse]

theorem trims_strip (cs : List Char) : Trims cs (strip cs) where
  cut := by
    have cut : cs.takeWhile isBlank ++ dropBlank cs = cs := List.takeWhile_append_dropWhile
    refine ⟨cs.takeWhile isBlank, ((dropBlank cs).reverse.takeWhile isBlank).reverse, ?_,
      isBlank_of_mem_takeWhile, fun c hc => ?_⟩
    · rw [List.append_assoc, ← dropBlank_eq_strip_append, cut]
    · exact isBlank_of_mem_takeWhile c (List.mem_reverse.1 hc)
  first := by
    intro c hc
    refine isBlank_head?_dropBlank cs c ?_
    rw [dropBlank_eq_strip_append, List.head?_append, Option.mem_def.1 hc]
    rfl
  last := by
    intro c hc
    rw [strip, List.getLast?_reverse] at hc
    exact isBlank_head?_dropBlank _ c hc

theorem Trims.strip_eq (h : Trims cs body) : strip cs = body := by
  obtain ⟨⟨before, after, rfl, blankBefore, blankAfter⟩, first, last⟩ := h
  have blankEnd : ∀ c ∈ after.reverse, isBlank c = true := fun c hc =>
    blankAfter c (List.mem_reverse.1 hc)
  have noBlankEnd : dropBlank body.reverse = body.reverse :=
    dropBlank_eq_self (by simpa using last)
  rw [strip, List.append_assoc, dropBlank_append blankBefore]
  cases body with
  | nil =>
    -- Nothing stops the blanks before the part from running on into those after it.
    have all := dropBlank_append blankAfter []
    rw [List.append_nil] at all
    rw [List.nil_append, all]
    rfl
  | cons c rest =>
    have start : dropBlank (c :: rest ++ after) = c :: rest ++ after := dropBlank_eq_self first
    rw [start, List.reverse_append, dropBlank_append blankEnd, noBlankEnd, List.reverse_reverse]

end Worksheet.Text
