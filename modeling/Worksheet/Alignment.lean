import Worksheet.Value.Build

/-! Settings of an evaluation, and the alignment of values. Several values are brought to their
common extent, the least one into which they all fit. A lone item fills it; a grid keeps its items
at their places and gives a fill value elsewhere, except that a grid of one row or one column may be
repeated across the extent. How the grids are made that this takes is left open, because calls and
plain alignment differ in the room they have. -/

namespace Worksheet

/-- What a grid gives outside itself when it is aligned with a larger extent. -/
inductive Stretch where
  | pad
  | replicate
deriving DecidableEq, Repr

structure Settings where
  stretch : Stretch
  cellLimit : UInt64
deriving DecidableEq, Repr

abbrev Maker := Extent → (Nat → Nat → Except Breach Value) → Except Breach Grid

namespace Settings

def standard : Settings := ⟨.pad, 5000000⟩

def allows (s : Settings) (e : Extent) : Bool := e.isWithin s.cellLimit.toNat

/-- Calls have room for as many cells as their settings allow. -/
def maker (s : Settings) : Maker := Grid.make s.cellLimit.toNat

theorem allows_iff {s : Settings} {e : Extent} :
    s.allows e = true ↔ e.rows * e.cols ≤ s.cellLimit.toNat := by
  have small := s.cellLimit.toNat_lt_size
  rw [allows, Extent.isWithin_iff]
  omega

end Settings

def commonExtent (vs : List Value) : Extent := vs.foldl (fun e v => e.join v.extent) .single

namespace Value

/-- The index that a stretched dimension of a grid is read at. -/
def readAt (mode : Stretch) (length i : Nat) : Nat :=
  if mode = .replicate ∧ length = 1 then 0 else i

def spreadBy (make : Maker) (v : Value) (target : Extent) (fill : Value) (mode : Stretch) :
    Except Breach Grid :=
  match v with
  | item i => make target fun _ _ => .ok (item i)
  | grid g =>
    if g.extent.fits target then
      if g.extent = target then .ok g
      else if g.extent.isSingle then make target fun _ _ => .ok (item g.first)
      else
        make target fun r c =>
          match g.get? (readAt mode g.rows r) (readAt mode g.cols c) with
          | some i => .ok (item i)
          | none => .ok fill
    else .error (.tooLarge g.extent target)

def spread (room : Nat) : Value → Extent → Value → Stretch → Except Breach Grid :=
  spreadBy (Grid.make room)

end Value

def spreadAllBy (make : Maker) (vs : List Value) (fill : Value) (mode : Stretch) :
    Except Breach (List Grid) :=
  vs.mapM fun v => v.spreadBy make (commonExtent vs) fill mode

def spreadAll (room : Nat) : List Value → Value → Stretch → Except Breach (List Grid) :=
  spreadAllBy (Grid.make room)

end Worksheet
