import Worksheet.Function.Signature

/-! The numeric functions `ABS`, `SIGN`, `INT`, `ROUND`, `MOD` and `POWER`. Their rules take every
argument as a number first; the first argument that is none decides the answer. A result that is
infinite or undefined becomes the failure for numbers. -/

namespace Worksheet.Arithmetic

open Value

def number? : Item → Except Failure Float
  | .failure e => .error e
  | .scalar s =>
    match s.toNumber with
    | .ok x => .ok x
    | .error f => .error ⟨f, none⟩

def numbers (args : List Value) : Except Failure (List Float) := args.mapM fun v => number? v.toItem

def finite (x : Float) : Value := if x.isFinite then number x else fault .num

def operand (xs : List Float) (i : Nat) : Except Breach Float :=
  match xs[i]? with
  | some x => .ok x
  | none => .error (.noArgument xs.length i)

def onNumbers (f : List Float → Except Breach Value) : Rule := fun args =>
  match numbers args with
  | .ok xs => f xs
  | .error e => .ok (.failure e)

/-- Powers by squaring: `acc * base ^ n`, one squaring for each binary digit of `n`. -/
def timesPower (acc base : Float) (n : Nat) : Float :=
  let acc := if n % 2 = 1 then acc * base else acc
  if n / 2 = 0 then acc else timesPower acc (base * base) (n / 2)
termination_by n

def tenTo (n : Nat) : Float := timesPower 1 10 n

def signOf (x : Float) : Float := if x > 0 then 1 else if x < 0 then -1 else 0

/-- Rounds to so many decimal places, a half away from zero, or to tens, hundreds and so on for a
negative number of places. From `2 ^ 52` on there are no decimal places left. -/
def roundTo (x : Float) (places : Int) : Float :=
  if 0 ≤ places then
    let scaled := x * tenTo places.toNat
    -- A scaled number without decimal places would only lose digits in the division.
    if !scaled.isFinite || scaled.abs ≥ 4503599627370496 then x
    else scaled.round / tenTo places.toNat
  else
    let unit := tenTo (min (-places).toNat 2147483647)
    if !unit.isFinite then 0 else (x / unit).round * unit

def placesOf (x : Float) : Int := x.toInt32.toInt

def modulo (x y : Float) : Value :=
  if y == 0 then fault .divZero else finite (x - y * (x / y).floor)

def unary (name : String) (f : Float → Float) : SheetFunction where
  signature :=
    { name := name
      params := [.required "number"]
      drive := .every
      required_first := rfl
      drive_isWithin := rfl }
  cellRule := onNumbers fun xs => do return finite (f (← operand xs 0))
  scalarRule? := none

def binary (name : String) (second : Parameter) (rule : Rule)
    (h : requiredFirst [.required "number", second] = true := by rfl) : SheetFunction where
  signature :=
    { name := name
      params := [.required "number", second]
      drive := .every
      required_first := h
      drive_isWithin := rfl }
  cellRule := rule
  scalarRule? := none

def rounding : SheetFunction :=
  binary "ROUND" (.optional "num_digits" (number 0)) (onNumbers fun xs => do
    let x ← operand xs 0
    let places ← operand xs 1
    return finite (roundTo x (placesOf places)))

def remainder : SheetFunction :=
  binary "MOD" (.required "divisor") (onNumbers fun xs => do
    let y ← operand xs 1
    let x ← operand xs 0
    return modulo x y)

def power : SheetFunction :=
  binary "POWER" (.required "power") (onNumbers fun xs => do
    let x ← operand xs 0
    let y ← operand xs 1
    return finite (x.pow y))

def functions : List SheetFunction :=
  [unary "ABS" Float.abs, unary "SIGN" signOf, unary "INT" Float.floor, rounding, remainder, power]

end Worksheet.Arithmetic
