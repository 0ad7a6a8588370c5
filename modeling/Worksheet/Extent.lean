/-! Extents of blocks of cells, and breaches of what a caller promises. Extents are ordered by
`fits`, and `join` is their least upper bound. Their sides are numbers of any size, but the cells
are counted in 64 bits, and room for them may be lacking before that. A breach is not a result of a
sheet: a call that keeps to its contract never meets one. -/

namespace Worksheet

structure Extent where
  rows : Nat
  cols : Nat
deriving DecidableEq, Repr

namespace Extent

def single : Extent := ⟨1, 1⟩

def isSingle (e : Extent) : Bool := e.rows == 1 && e.cols == 1

def cellCount? (e : Extent) : Option Nat :=
  if e.rows * e.cols < UInt64.size then some (e.rows * e.cols) else none

/-- The cells can be counted, and there is room for as many. -/
def isWithin (room : Nat) (e : Extent) : Bool := e.cellCount?.any (· ≤ room)

def fits (e other : Extent) : Bool := e.rows ≤ other.rows && e.cols ≤ other.cols

def join (e other : Extent) : Extent := ⟨max e.rows other.rows, max e.cols other.cols⟩

def text (e : Extent) : String := toString e.rows ++ "x" ++ toString e.cols

@[simp] theorem isSingle_iff {e : Extent} : e.isSingle = true ↔ e = single := by
  cases e; simp [isSingle, single]

theorem isWithin_iff {room : Nat} {e : Extent} :
    e.isWithin room = true ↔ e.rows * e.cols < UInt64.size ∧ e.rows * e.cols ≤ room := by
  unfold isWithin cellCount?
  split
  · rename_i counted
    rw [Option.any_some, decide_eq_true_iff]
    exact (and_iff_right counted).symm
  · rename_i uncounted
    exact iff_of_false Bool.false_ne_true fun h => uncounted h.1

theorem not_isWithin_iff {room : Nat} {e : Extent} : ¬e.isWithin room = true ↔
    UInt64.size ≤ e.rows * e.cols ∨ room < e.rows * e.cols := by
  rw [isWithin_iff]
  omega

theorem fits_iff {e f : Extent} : e.fits f = true ↔ e.rows ≤ f.rows ∧ e.cols ≤ f.cols := by
  simp [fits]

@[simp] theorem fits_refl (e : Extent) : e.fits e = true := by simp [fits]

theorem join_fits_iff {e f g : Extent} :
    (e.join f).fits g = true ↔ e.fits g = true ∧ f.fits g = true := by
  simp only [fits_iff, join]; omega

end Extent

inductive Breach where
  | noCells (e : Extent)
  | uncountable
  | noRoom
  | outside (row col : Nat) (e : Extent)
  | tooLarge (e target : Extent)
  | requiredAfterOptional (function : String)
  | noDriver (function : String) (index : Nat)
  | noArgument (count index : Nat)
deriving DecidableEq, Repr

namespace Breach

def message : Breach → String
  | noCells e => "array shape must be at least 1x1, got " ++ e.text
  | uncountable => "attempt to multiply with overflow"
  | noRoom => "capacity overflow"
  | outside row col e =>
    "cell (" ++ toString row ++ ", " ++ toString col ++ ") is outside a " ++ e.text ++ " array"
  | tooLarge e target => "cannot broadcast a " ++ e.text ++ " array down to " ++ target.text
  | requiredAfterOptional f => f ++ ": required parameters must precede optional ones"
  | noDriver f index => f ++ ": driver index " ++ toString index ++ " out of range"
  | noArgument count index =>
    "index out of bounds: the len is " ++ toString count ++ " but the index is " ++ toString index

end Breach

namespace Extent

/-- Takes room for the cells of an extent, of which there must be some. -/
def reserve (room : Nat) (e : Extent) : Except Breach Unit :=
  if e.rows = 0 ∨ e.cols = 0 then .error (.noCells e)
  else
    match e.cellCount? with
    | none => .error .uncountable
    | some n => if n ≤ room then .ok () else .error .noRoom

theorem reserve_eq_ok_iff {room : Nat} {e : Extent} :
    e.reserve room = .ok () ↔ 0 < e.rows ∧ 0 < e.cols ∧ e.isWithin room = true := by
  unfold reserve
  split
  · rename_i none
    exact iff_of_false nofun (by omega)
  · rename_i some
    unfold isWithin
    cases e.cellCount? with
    | none => simp
    | some n =>
      simp only [Option.any_some, decide_eq_true_eq]
      split
      · exact iff_of_true rfl ⟨by omega, by omega, ‹_›⟩
      · exact iff_of_false nofun fun h => absurd h.2.2 ‹_›

theorem breach_of_reserve {room : Nat} {e : Extent} {b : Breach} (hr : 0 < e.rows)
    (hc : 0 < e.cols) (refused : e.reserve room = .error b) : b = .uncountable ∨ b = .noRoom := by
  unfold reserve at refused
  split at refused
  · omega
  · split at refused
    · cases refused
      exact .inl rfl
    · split at refused
      · cases refused
      · cases refused
        exact .inr rfl

end Extent

end Worksheet
