import Worksheet.Address.Column
import Worksheet.Text.Basic

/-! Cell addresses. An address is a row index and a column index, both from zero; it is written as
column letters followed by the row number, which counts from one. The order is by row, then by
column. Reading ignores blanks at the ends and dollar signs anywhere. -/

namespace Worksheet

structure Address where
  row : UInt32
  col : UInt16
deriving DecidableEq, Repr

namespace Address

def order : Address → Address → Ordering := compareLex (compareOn row) (compareOn col)

instance : Ord Address := ⟨order⟩

instance : Std.TransCmp order := inferInstanceAs (Std.TransCmp (compareLex _ _))

instance : Std.LawfulEqCmp order where
  eq_of_compare {a b} h := by
    simp only [order, compareLex, compareOn, Ordering.then_eq_eq,
      Std.LawfulEqCmp.compare_eq_iff_eq] at h
    cases a; cases b; simp_all

def sort (l : List Address) : List Address := l.mergeSort fun a b => (order a b).isLE

def offset (a : Address) (down right : Nat) : Address :=
  ⟨a.row + UInt32.ofNat down, a.col + UInt16.ofNat right⟩

def text (a : Address) : String := Column.name a.col ++ toString (a.row.toNat + 1)

def dropPlus : List Char → List Char
  | '+' :: ds => ds
  | ds => ds

/-- A row number: an optional plus sign and at least one digit, below `2 ^ 32`. -/
def rowNumber? (cs : List Char) : Option Nat :=
  let ds := dropPlus cs
  let n := Text.natOfDigits ds
  if Text.isNatural ds && n < UInt32.size then some n else none

def rowIndex (text : String) (cs : List Char) : Except AddressError UInt32 :=
  match rowNumber? cs with
  | none => .error (.badRow text)
  | some 0 => .error (.rowZero text)
  | some (n + 1) => if n < rowLimit then .ok (UInt32.ofNat n) else .error (.rowBeyond n)

def significant (s : String) : List Char := (Text.strip s.toList).filter (· ≠ '$')

def parse (s : String) : Except AddressError Address :=
  let body := significant s
  let letters := body.takeWhile Char.isAlpha
  let digits := body.dropWhile Char.isAlpha
  if body = [] then .error .noText
  else if letters = [] then .error (.noLetters s)
  else if digits = [] then .error (.noDigits s)
  else do
    let col ← Column.ofLetters letters
    let row ← rowIndex s digits
    return ⟨row, col⟩

@[simp] theorem offset_zero (a : Address) : a.offset 0 0 = a := by simp [offset]

end Address

end Worksheet
