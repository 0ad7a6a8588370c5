import Worksheet.Value.Grid

/-! Values: what sheet functions take and give, an item or a grid of items. Items inside a grid are
never grids themselves, so wherever a value becomes one cell of a grid, a grid gives its first item.
-/

namespace Worksheet

inductive Value where
  | item (i : Item)
  | grid (g : Grid)

namespace Value

@[match_pattern] abbrev scalar (s : Scalar) : Value := .item (.scalar s)

@[match_pattern] abbrev failure (e : Failure) : Value := .item (.failure e)

@[match_pattern] abbrev blank : Value := .scalar .blank

@[match_pattern] abbrev number (x : Float) : Value := .scalar (.number x)

@[match_pattern] abbrev logical (b : Bool) : Value := .scalar (.logical b)

@[match_pattern] abbrev text (s : String) : Value := .scalar (.text s)

@[match_pattern] abbrev fault (f : Fault) : Value := .item (.fault f)

abbrev notAvailable : Value := fault .na

def isGrid : Value → Bool
  | grid _ => true
  | item _ => false

def isFailure : Value → Bool
  | failure _ => true
  | _ => false

def isBlank : Value → Bool
  | blank => true
  | _ => false

def isLogical : Value → Bool
  | logical _ => true
  | _ => false

def scalar? : Value → Option Scalar
  | scalar s => some s
  | _ => none

def failure? : Value → Option Failure
  | failure e => some e
  | _ => none

def fault? (v : Value) : Option Fault := v.failure?.map Failure.fault

def note? (v : Value) : Option String := v.failure?.bind Failure.note

def extent : Value → Extent
  | grid g => g.extent
  | item _ => .single

def toItem : Value → Item
  | item i => i
  | grid g => g.first

def unwrap : Value → Value
  | grid g => if g.extent.isSingle then item g.first else grid g
  | item i => item i

def toCell : Value → Cell
  | item i => i.toCell
  | grid _ => .fault .value

/-- The literal at the head of the value, which for a grid is that of its first item. -/
def lead (v : Value) : Cell := v.toItem.toCell

def ofCell (c : Cell) : Value := item (.ofCell c)

def ofRange (source : Source) (range : Range) : Value := grid (.window source range)

def display : Value → String
  | item i => i.display
  | grid g => g.display

def same : Value → Value → Bool
  | item i, item j => i.same j
  | grid g, grid h => g.same h
  | _, _ => false

@[simp] theorem toItem_item (i : Item) : (item i).toItem = i := rfl

@[simp] theorem unwrap_item (i : Item) : (item i).unwrap = item i := rfl

@[simp] theorem toCell_ofCell (c : Cell) : (ofCell c).toCell = c := by simp [ofCell, toCell]

theorem failure?_eq_some_iff {v : Value} {e : Failure} : v.failure? = some e ↔ v = failure e := by
  rcases v with (s | e') | g <;> simp [failure?]

theorem extent_unwrap (v : Value) : v.unwrap.extent = v.extent := by
  rcases v with i | g
  · rfl
  · rw [unwrap]
    split
    · rename_i h
      exact (Extent.isSingle_iff.1 h).symm
    · rfl

theorem not_isSingle_of_unwrap_eq_grid {v : Value} {g : Grid} (h : v.unwrap = grid g) :
    g.extent.isSingle = false := by
  rcases v with i | g'
  · cases h
  · rw [unwrap] at h
    split at h
    · cases h
    · rename_i hs
      cases h
      exact Bool.eq_false_iff.2 hs

end Value

end Worksheet
