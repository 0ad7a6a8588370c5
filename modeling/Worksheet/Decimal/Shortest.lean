import Worksheet.Decimal.Binary
import Worksheet.Text.Basic

/-! The shortest decimal that reads back, and its text. A magnitude is the nearest one to every real
number of an interval around it, whose ends belong to it exactly when the mantissa is even. Of the
decimals `digits * 10 ^ place` in that interval, `shortest` takes one with the coarsest place; of
two on the same place the closer one, and the upper one when both are equally close. The text is in
positional notation, however large or small the number: the digits filled up with zeros, never an
exponent and never a trailing point. A negative zero keeps its sign. -/

namespace Worksheet.Decimal

structure Digits where
  digits : Nat
  place : Int
deriving DecidableEq, Repr

namespace Magnitude

def narrowBelow (m : Magnitude) : Bool :=
  m.mantissa == hiddenBit && m.exponent != lowestExponent

def compareAt (m : Magnitude) (a : Nat) (d : Digits) : Ordering :=
  let two := m.exponent - 2
  -- `a` quarters against the decimal, both multiplied until they are whole numbers
  compare (a <<< two.toNat * Nat.pow 10 (-d.place).toNat)
    ((d.digits * Nat.pow 10 d.place.toNat) <<< (-two).toNat)

def covers (m : Magnitude) (d : Digits) : Bool :=
  -- The ends are halfway to the neighbours, of which the lower one is nearer at a power of two.
  let low := 4 * m.mantissa - if m.narrowBelow then 1 else 2
  let high := 4 * m.mantissa + 2
  if m.mantissa % 2 = 0 then
    m.compareAt low d != .gt && m.compareAt high d != .lt
  else
    m.compareAt low d == .lt && m.compareAt high d == .gt

def floorAt (m : Magnitude) (place : Int) : Digits :=
  ⟨m.mantissa <<< m.exponent.toNat * Nat.pow 10 (-place).toNat /
    Nat.pow 10 place.toNat <<< (-m.exponent).toNat, place⟩

def hit? (m : Magnitude) (place : Int) : Option Digits :=
  let below := m.floorAt place
  let above : Digits := ⟨below.digits + 1, place⟩
  -- the middle of the two neighbours, in units of half a place
  let upperHalf := m.compareAt (8 * m.mantissa) ⟨2 * below.digits + 1, place⟩ != .lt
  match m.covers below, m.covers above with
  | true, true => some (if upperHalf then above else below)
  | true, false => some below
  | false, true => some above
  | false, false => none

/-- A place at least as coarse as that of the leading digit: `1233 / 4096` is just below the decimal
logarithm of two. -/
def topPlace (m : Magnitude) : Int := ((m.mantissa.log2 : Int) + m.exponent + 1) * 1233 / 4096 + 1

def scan (m : Magnitude) : Nat → Int → Digits
  | 0, place => m.floorAt place
  | fuel + 1, place => (m.hit? place).getD (m.scan fuel (place - 1))

/-- A positive magnitude has a hit among its 17 leading places, and the scan starts at most two
places above them. -/
def shortest (m : Magnitude) : Digits := m.scan 20 m.topPlace

end Magnitude

namespace Digits

def layout (d : Digits) : List Char :=
  let ds := Text.digits d.digits
  let shift := (-d.place).toNat
  if shift = 0 then
    ds ++ List.replicate d.place.toNat '0'
  else if shift < ds.length then
    ds.take (ds.length - shift) ++ '.' :: ds.drop (ds.length - shift)
  else
    '0' :: '.' :: List.replicate (shift - ds.length) '0' ++ ds

end Digits

namespace Magnitude

def layout (m : Magnitude) : List Char :=
  if m.mantissa = 0 then ['0'] else m.shortest.layout

end Magnitude

namespace Binary

def layout : Binary → List Char
  | .nan => "NaN".toList
  | .infinite negative => (if negative then "-inf" else "inf").toList
  | .finite negative m => if negative then '-' :: m.layout else m.layout

end Binary

def positional (x : Float) : String := String.ofList (Binary.ofFloat x).layout

end Worksheet.Decimal
