import Worksheet.Proofs.Answer
import Worksheet.Proofs.Conditional
import Worksheet.Proofs.Elementwise

/-! The standard functions never meet a breach. No rule looks for an argument that it was not given,
so a call has an answer as soon as its function is known and has as many parameters as there are
arguments. Main statement: the outcome of a standard call, case by case. -/

namespace Worksheet

theorem Elementwise.Ruled.answering {f : SheetFunction} (ruled : Ruled f)
    (every : f.signature.drive = .every) : f.Answering where
  cells xs length := by
    obtain ⟨i, rule⟩ := ruled.answers xs length
    exact ⟨.item i, rule⟩
  plain vs length undriven := by
    obtain ⟨i, rule⟩ := ruled.exists_item every length undriven
    exact ⟨.item i, rule⟩

theorem Logical.answering_conditional : conditional.Answering where
  cells xs length := by
    obtain ⟨test, yes, no, rfl⟩ := List.length_eq_three.1 length
    change ∃ v, selectionInCell [.item test, .item yes, .item no] = .ok v
    rw [selectionInCell, selection_item]
    exact ⟨_, rfl⟩
  plain vs length undriven := by
    obtain ⟨test, yes, no, rfl⟩ := List.length_eq_three.1 length
    rw [isDriven_conditional] at undriven
    rcases test with i | g
    · exact ⟨chosen i yes no, selection_item i yes no⟩
    · cases undriven

theorem Catalog.answering_of_mem {f : SheetFunction} (h : f ∈ standardFunctions) :
    f.Answering := by
  rcases eq_conditional_or_every h with rfl | every
  · exact Logical.answering_conditional
  · exact (Elementwise.ruled_of_mem h every).answering every

namespace Engine

end Engine

end Worksheet
