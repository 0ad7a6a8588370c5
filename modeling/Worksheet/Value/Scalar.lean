import Worksheet.Cell
import Worksheet.Decimal.Literal

/-! Scalars: the single values that sheet functions compute with. -/

namespace Worksheet

inductive Scalar where
  | blank
  | number (x : Float)
  | logical (b : Bool)
  | text (s : String)

namespace Scalar

def isBlank : Scalar → Bool
  | blank => true
  | _ => false

def isNumber : Scalar → Bool
  | number _ => true
  | _ => false

def isLogical : Scalar → Bool
  | logical _ => true
  | _ => false

def isText : Scalar → Bool
  | text _ => true
  | _ => false

/-- How a condition takes the scalar: a number other than zero and a text other than the empty one
hold. -/
def isTruthy : Scalar → Bool
  | blank => false
  | number x => x != 0
  | logical b => b
  | text s => s != ""

/-- The scalar as a number: blank is zero, a logical value one or zero, and a text the number it
spells between its blanks. -/
def toNumber : Scalar → Except Fault Float
  | blank => .ok 0
  | number x => .ok x
  | logical b => .ok (if b then 1 else 0)
  | text s =>
    match Decimal.parse? (Text.strip s.toList) with
    | some x => .ok x
    | none => .error .value

def display : Scalar → String
  | blank => ""
  | number x => if x == 0 then "0" else Decimal.positional x
  | logical b => if b then "TRUE" else "FALSE"
  | text s => s

/-- Equality as a sheet compares: by the value of numbers, so that the undefined number differs from
itself and the two zeros are equal. -/
def same : Scalar → Scalar → Bool
  | blank, blank => true
  | number x, number y => x == y
  | logical a, logical b => a == b
  | text s, text t => s == t
  | _, _ => false

def toCell : Scalar → Cell
  | blank => .blank
  | number x => .number x
  | logical b => .logical b
  | text s => .text s

end Scalar

end Worksheet
