import Worksheet.Value.Scalar

/-! Items: what one cell of a grid holds when functions compute with it, a scalar or a failure. A
failure is an error marker with an optional note about its cause; the note does not survive storage
in a sheet. -/

namespace Worksheet

structure Failure where
  fault : Fault
  note : Option String
deriving DecidableEq

inductive Item where
  | scalar (s : Scalar)
  | failure (e : Failure)

namespace Item

@[match_pattern] abbrev blank : Item := .scalar .blank

@[match_pattern] abbrev fault (f : Fault) : Item := .failure ⟨f, none⟩

def isFailure : Item → Bool
  | failure _ => true
  | _ => false

def display : Item → String
  | scalar s => s.display
  | failure e => e.fault.token

def same : Item → Item → Bool
  | scalar s, scalar t => s.same t
  | failure e, failure f => e == f
  | _, _ => false

def toCell : Item → Cell
  | scalar s => s.toCell
  | failure e => .fault e.fault

def ofCell : Cell → Item
  | .blank => blank
  | .number x => .scalar (.number x)
  | .logical b => .scalar (.logical b)
  | .text s => .scalar (.text s)
  | .fault f => fault f

def ofCell? : Option Cell → Item
  | none => blank
  | some c => ofCell c

@[simp] theorem toCell_ofCell (c : Cell) : (ofCell c).toCell = c := by cases c <;> rfl

end Item

end Worksheet
