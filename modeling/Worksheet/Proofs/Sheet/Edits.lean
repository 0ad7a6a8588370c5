import Worksheet.Proofs.Sheet.Entries

/-! Sheets after edits. At each address the last edit there decides what is held: the cell that it
set, or nothing if that was blank or the edit was a removal. Main statement: a sheet that any edits
made of the empty one is this map, however it is read. -/

namespace Worksheet

inductive Edit where
  | set (a : Address) (c : Cell)
  | remove (a : Address)

namespace Edit

def target : Edit → Address
  | set a _ => a
  | remove a => a

def left : Edit → Option Cell
  | set _ c => if c.isBlank then none else some c
  | remove _ => none

def apply (s : Sheet) : Edit → Sheet
  | set a c => s.set a c
  | remove a => (s.remove a).2

theorem get?_apply (s : Sheet) (e : Edit) (a : Address) :
    (e.apply s).get? a = if e.target = a then e.left else s.get? a := by
  cases e with
  | set b c => exact s.get?_set b a c
  | remove b => exact s.get?_erase b a

/-- The last of some edits that has the address for its target. -/
def last? (edits : List Edit) (a : Address) : Option Edit :=
  edits.reverse.find? fun e => e.target = a

/-- What the edits leave at an address where nothing was held before. -/
def held (edits : List Edit) (a : Address) : Option Cell := (last? edits a).bind left

theorem last?_concat (edits : List Edit) (e : Edit) (a : Address) :
    last? (edits ++ [e]) a = if e.target = a then some e else last? edits a := by
  rw [last?, List.reverse_concat, List.find?_cons]
  by_cases here : e.target = a <;> simp [here, last?]

theorem mem_of_last? {edits : List Edit} {a : Address} {e : Edit} (h : last? edits a = some e) :
    e ∈ edits ∧ e.target = a :=
  ⟨List.mem_reverse.1 (List.mem_of_find?_eq_some h), by simpa using List.find?_some h⟩

theorem last?_eq_none_iff {edits : List Edit} {a : Address} :
    last? edits a = none ↔ ∀ e ∈ edits, e.target ≠ a := by
  simp [last?]

theorem exists_of_held {edits : List Edit} {a : Address} (h : held edits a ≠ none) :
    ∃ e ∈ edits, e.target = a := by
  cases last : last? edits a with
  | none => exact absurd (by rw [held, last]; rfl) h
  | some e => exact ⟨e, mem_of_last? last⟩

end Edit

namespace Sheet

def edited (s : Sheet) (edits : List Edit) : Sheet := edits.foldl Edit.apply s

theorem edited_concat (s : Sheet) (edits : List Edit) (e : Edit) :
    s.edited (edits ++ [e]) = e.apply (s.edited edits) := by
  simp [edited]

theorem get?_edited (s : Sheet) (edits : List Edit) (a : Address) :
    (s.edited edits).get? a = (Edit.last? edits a).elim (s.get? a) Edit.left := by
  induction edits using List.reverseRecOn with
  | nil => rfl
  | append_singleton edits e ih =>
    rw [edited_concat, Edit.get?_apply, Edit.last?_concat, ih]
    split <;> rfl

theorem get?_edited_of_ne {s : Sheet} {edits : List Edit} {a : Address}
    (elsewhere : ∀ e ∈ edits, e.target ≠ a) : (s.edited edits).get? a = s.get? a := by
  rw [get?_edited, Edit.last?_eq_none_iff.2 elsewhere]
  rfl

theorem get?_edited_of_agree {s : Sheet} {edits : List Edit} {a : Address} {left : Option Cell}
    (edited : ∃ e ∈ edits, e.target = a) (agree : ∀ e ∈ edits, e.target = a → e.left = left) :
    (s.edited edits).get? a = left := by
  rw [get?_edited]
  cases last : Edit.last? edits a with
  | none =>
    obtain ⟨e, he, here⟩ := edited
    exact absurd here (Edit.last?_eq_none_iff.1 last e he)
  | some e =>
    obtain ⟨he, here⟩ := Edit.mem_of_last? last
    exact agree e he here

theorem get?_edited_empty (edits : List Edit) (a : Address) :
    (empty.edited edits).get? a = Edit.held edits a := by
  rw [get?_edited, get?_empty, Edit.held]
  cases Edit.last? edits a <;> rfl

/-- A sheet that was edited from the empty one is the finite map that the edits leave. Looking up
and removing give what the map holds, and removing changes nothing else. The entries are the map in
address order, each address once; the size is how many addresses it has; and the sheet is empty
when the map is. No row is stored without a cell, and no cell is blank. -/
theorem edited_refines (edits : List Edit) :
    let s := empty.edited edits
    let held := Edit.held edits
    (∀ a, s.get? a = held a) ∧
    (∀ a, (s.remove a).1 = held a ∧
      ∀ b, (s.remove a).2.get? b = if b = a then none else held b) ∧
    (∀ a c, (a, c) ∈ s.entries ↔ held a = some c) ∧
    (s.entries.Pairwise fun p q =>
      p.1.row < q.1.row ∨ p.1.row = q.1.row ∧ p.1.col < q.1.col) ∧
    {a | held a ≠ none}.encard = s.size ∧
    (s.isEmpty = true ↔ ∀ a, held a = none) ∧
    s.rows.Tidy := by
  intro s held
  have reads : ∀ a, s.get? a = held a := get?_edited_empty edits
  have same : held = s.get? := funext fun a => (reads a).symm
  refine ⟨reads, fun a => ⟨reads a, fun b => ?_⟩, fun a c => ?_, ?_, ?_, ?_, s.tidy⟩
  · rw [remove, get?_erase, reads]
    simp only [eq_comm]
  · rw [mem_entries_iff, reads]
  · exact s.entries_pairwise.imp Address.order_eq_lt_iff.1
  · rw [same]
    exact s.encard_held
  · rw [same]
    exact s.isEmpty_iff

example : (empty.edited [.set ⟨2, 7⟩ (.logical true), .set ⟨2, 7⟩ .blank]).isEmpty = true := by
  decide

end Sheet

end Worksheet
