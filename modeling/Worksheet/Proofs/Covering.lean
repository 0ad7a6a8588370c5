import Worksheet.Proofs.Elementwise
import Worksheet.Proofs.Replication

/-! Answers place by place. Every value has an item at each place of its extent, be it a grid or one
item alone. Main statement: unless it is refused for its cells, a call of a function that every
parameter drives covers the common extent of its operands with what the rule makes of the items that
they show, whichever course it takes. -/

namespace Worksheet

namespace Value

def get? : Value → Nat → Nat → Option Item
  | item i, r, c => if r = 0 ∧ c = 0 then some i else none
  | grid g, r, c => g.get? r c

def Each (P : Item → Prop) (v : Value) : Prop := ∀ r c i, v.get? r c = some i → P i

/-- The value has the extent, and is a grid unless that is one cell. At each place it has an item
that is as asked for there. -/
structure Covers (v : Value) (e : Extent) (R : Nat → Nat → Item → Prop) : Prop where
  extent : v.extent = e
  isGrid_iff : v.isGrid = true ↔ e ≠ .single
  get? : ∀ {r c : Nat}, r < e.rows → c < e.cols → ∃ i, v.get? r c = some i ∧ R r c i

variable {v : Value} {e : Extent} {R : Nat → Nat → Item → Prop} {P : Item → Prop} {i : Item}
  {r c : Nat}

theorem get?_of_lt {fill : Item} {mode : Stretch} (hr : r < v.extent.rows)
    (hc : c < v.extent.cols) : v.get? r c = some (v.cellAt fill mode r c) := by
  rcases v with i | g
  · exact if_pos ⟨Nat.lt_one_iff.1 hr, Nat.lt_one_iff.1 hc⟩
  · exact cellAt_of_lt hr hc

theorem lt_of_get? (here : v.get? r c = some i) : r < v.extent.rows ∧ c < v.extent.cols := by
  rcases v with j | g
  · rw [get?] at here
    split at here
    · rename_i first
      obtain ⟨rfl, rfl⟩ := first
      exact ⟨Nat.one_pos, Nat.one_pos⟩
    · cases here
  · exact (g.exists_get?_iff r c).1 ⟨i, here⟩

@[simp] theorem each_item : (item i).Each P ↔ P i := by
  constructor
  · intro each
    exact each 0 0 i rfl
  · intro h r c j here
    rw [get?] at here
    split at here
    · cases here
      exact h
    · cases here

theorem Covers.imp {R' : Nat → Nat → Item → Prop} (h : v.Covers e R)
    (imp : ∀ r c i, r < e.rows → c < e.cols → R r c i → R' r c i) : v.Covers e R' where
  extent := h.extent
  isGrid_iff := h.isGrid_iff
  get? hr hc := by
    obtain ⟨i, here, told⟩ := h.get? hr hc
    exact ⟨i, here, imp _ _ i hr hc told⟩

theorem Covers.each (h : v.Covers e R) (imp : ∀ r c i, R r c i → P i) : v.Each P := by
  intro r c i here
  obtain ⟨hr, hc⟩ := lt_of_get? here
  obtain ⟨j, here', told⟩ := h.get? (h.extent ▸ hr) (h.extent ▸ hc)
  obtain rfl : i = j := Option.some.inj (here.symm.trans here')
  exact imp r c i told

end Value

theorem alignedAt_of_items {mode : Stretch} {r c : Nat} {vs : List Value}
    (items : ∀ v ∈ vs, v.isGrid = false) : alignedAt mode r c vs = vs := by
  have kept : ∀ v ∈ vs, Value.item (v.cellAt (.fault .na) mode r c) = id v := by
    intro v hv
    rcases v with i | g
    · rfl
    · cases items _ hv
  rw [alignedAt, List.map_congr_left kept, List.map_id]

/-- So many cells are refused: more than one, and more than the limit. -/
def Settings.Refuses (settings : Settings) (e : Extent) : Prop :=
  e ≠ .single ∧ settings.cellLimit.toNat < e.rows * e.cols

namespace Elementwise

variable {f : SheetFunction} {settings : Settings} {args : List (Option Value)}
  {bound : List Value}

theorem invoke_of_refuses (every : f.signature.drive = .every)
    (admits : f.signature.Admits args bound) (refused : settings.Refuses (commonExtent bound)) :
    f.invoke settings args = .ok (.fault .spill) := by
  have driven := (Signature.isDriven_iff_ne_single every).2 refused.1
  refine SheetFunction.invoke_of_course (.spilled admits driven ?_)
  rw [Signature.commonExtent_unwrapDriving, ← Bool.not_eq_true, Settings.allows_iff]
  exact Nat.not_le.2 refused.2

theorem Ruled.exists_cell (ruled : Ruled f) (length : bound.length = f.signature.params.length)
    (mode : Stretch) (r c : Nat) : ∃ i, f.cellRule (alignedAt mode r c bound) = .ok (.item i) := by
  rw [alignedAt_eq_map_item]
  exact ruled.answers _ (by rw [List.length_map, length])

/-- An answer that comes about cell by cell, or for one cell alone. -/
def CoversRule (f : SheetFunction) (settings : Settings) (bound : List Value) (v : Value) : Prop :=
  v.Covers (commonExtent bound) fun r c i =>
    f.cellRule (alignedAt settings.stretch r c bound) = .ok (.item i)

theorem Ruled.invoke_covers_single (ruled : Ruled f) (every : f.signature.drive = .every)
    (admits : f.signature.Admits args bound) (single : commonExtent bound = .single) :
    ∃ v, f.invoke settings args = .ok v ∧ CoversRule f settings bound v := by
  have undriven : f.signature.isDriven (f.signature.unwrapDriving bound) = false := by
    rw [← Bool.not_eq_true, Signature.isDriven_iff_ne_single every, not_ne_iff, single]
  have items : ∀ v ∈ f.signature.unwrapDriving bound, v.isGrid = false := fun v hv =>
    Signature.isGrid_of_undriven every undriven hv
  obtain ⟨i, rule⟩ := ruled.exists_item every admits.length_unwrapDriving undriven
  refine ⟨.item i, ?_, single.symm, ?_, fun {r c} hr hc => ⟨i, ?_, ?_⟩⟩
  · rw [SheetFunction.invoke_of_course (.plain admits undriven), rule]
    rfl
  · simp [single, Value.isGrid]
  · rw [single] at hr hc
    exact if_pos ⟨Nat.lt_one_iff.1 hr, Nat.lt_one_iff.1 hc⟩
  · rw [← f.signature.alignedAt_unwrapDriving, alignedAt_of_items items, ← ruled.single]
    exact rule

theorem Ruled.invoke_covers_several (ruled : Ruled f) (every : f.signature.drive = .every)
    (admits : f.signature.Admits args bound) (several : commonExtent bound ≠ .single)
    (allowed : settings.allows (commonExtent bound) = true) :
    ∃ v, f.invoke settings args = .ok v ∧ CoversRule f settings bound v := by
  have driven := (Signature.isDriven_iff_ne_single every).2 several
  have cells := ruled.exists_cell admits.length_eq settings.stretch
  obtain ⟨hr, hc⟩ := commonExtent_pos bound
  have answers : ∀ r c, r < (commonExtent bound).rows → c < (commonExtent bound).cols →
      ∃ v, f.cellRule (alignedAt settings.stretch r c bound) = .ok v := by
    intro r c _ _
    obtain ⟨i, rule⟩ := cells r c
    exact ⟨.item i, rule⟩
  obtain ⟨g, built⟩ := Grid.exists_build hr hc answers
  have taken : f.Course settings args _ := .cellwise admits driven (by
    rwa [Signature.commonExtent_unwrapDriving])
  refine ⟨.grid g, ?_, Grid.extent_of_build built, iff_of_true rfl several, fun {r c} hr hc => ?_⟩
  · simp only [SheetFunction.invoke_of_course taken, Signature.commonExtent_unwrapDriving,
      Signature.alignedAt_unwrapDriving, built]
    rfl
  · obtain ⟨w, rule, here⟩ := Grid.get?_of_build built hr hc
    obtain ⟨i, rule'⟩ := cells r c
    obtain rfl : w = .item i := Except.ok.inj (rule.symm.trans rule')
    exact ⟨i, here, rule⟩

theorem Ruled.invoke_covers (ruled : Ruled f) (every : f.signature.drive = .every)
    (admits : f.signature.Admits args bound) (kept : ¬settings.Refuses (commonExtent bound)) :
    ∃ v, f.invoke settings args = .ok v ∧ CoversRule f settings bound v := by
  by_cases single : commonExtent bound = .single
  · exact ruled.invoke_covers_single every admits single
  · have few := Nat.not_lt.1 fun many => kept ⟨single, many⟩
    exact ruled.invoke_covers_several every admits single (Settings.allows_iff.2 few)

end Elementwise

end Worksheet
