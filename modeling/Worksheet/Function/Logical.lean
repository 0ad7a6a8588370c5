import Worksheet.Function.Signature

/-! The logical functions `IF`, `NOT`, `IFERROR`, `IFNA`, `TRUE` and `FALSE`, and the information
functions, which tell what kind of value they are given, and `NA`. The latter take failures as
values like any other. -/

namespace Worksheet.Logical

open Value

/-- The branch of `IF` that its condition selects. A failed condition is the answer itself and a
blank one leaves the answer unavailable. -/
def selection : Rule := fun args => do
  match ← argument args 0 with
  | .failure e => return .failure e
  | blank => return notAvailable
  | scalar s => argument args (if s.isTruthy then 1 else 2)
  | grid _ => argument args 2

def selectionInCell : Rule := fun args =>
  -- Failures are not blank, so only an empty branch is left unavailable here.
  (selection args).map fun v => if v.isBlank then notAvailable else v

def conditional : SheetFunction where
  signature :=
    { name := "IF"
      params := [.required "logical_test", .required "value_if_true",
        (Parameter.optional "value_if_false" (logical false)).lazy]
      drive := .only 0
      required_first := rfl
      drive_isWithin := rfl }
  cellRule := selectionInCell
  scalarRule? := some selection

/-- The truth of an item; of texts only the two words for it have one. -/
def truth : Item → Except Failure Bool
  | .failure e => .error e
  | .scalar (.text s) =>
    let word := Text.strip s.toList
    if Text.sameLetters word "TRUE".toList then .ok true
    else if Text.sameLetters word "FALSE".toList then .ok false
    else .error ⟨.value, none⟩
  | .scalar s => .ok s.isTruthy

def negation : SheetFunction where
  signature :=
    { name := "NOT"
      params := [.required "logical"]
      drive := .every
      required_first := rfl
      drive_isWithin := rfl }
  cellRule args := do
    match truth (← argument args 0).toItem with
    | .ok b => return logical !b
    | .error e => return .failure e
  scalarRule? := none

def orZero (v : Value) : Value := if v.isBlank then number 0 else v

/-- A function of a value and of what replaces it when `caught` holds of it. -/
def fallback (name second : String) (caught : Value → Bool) : SheetFunction where
  signature :=
    { name := name
      params := [(Parameter.required "value").lazy, (Parameter.required second).lazy]
      drive := .every
      required_first := rfl
      drive_isWithin := rfl }
  cellRule args := do
    let v ← argument args 0
    if caught v then return orZero (← argument args 1) else return orZero v
  scalarRule? := none

def ifError : SheetFunction := fallback "IFERROR" "value_if_error" isFailure

def ifNotAvailable : SheetFunction := fallback "IFNA" "value_if_na" fun v => v.fault? == some .na

def functions : List SheetFunction :=
  [conditional, negation, ifError, ifNotAvailable, .constant "TRUE" (logical true),
    .constant "FALSE" (logical false)]

end Worksheet.Logical

namespace Worksheet.Information

open Value

def predicate (name : String) (holds : Value → Bool) : SheetFunction where
  signature :=
    { name := name
      params := [(Parameter.required "value").lazy]
      drive := .every
      required_first := rfl
      drive_isWithin := rfl }
  cellRule args := do return logical (holds (← argument args 0))
  scalarRule? := none

def isOtherFailure (v : Value) : Bool := v.isFailure && v.fault? != some .na

def isNotAvailable (v : Value) : Bool := v.fault? == some .na

def isNumber (v : Value) : Bool := v.scalar?.any Scalar.isNumber

def isText (v : Value) : Bool := v.scalar?.any Scalar.isText

def functions : List SheetFunction :=
  [predicate "ISBLANK" isBlank, predicate "ISERROR" isFailure, predicate "ISERR" isOtherFailure,
    predicate "ISNA" isNotAvailable, predicate "ISNUMBER" isNumber, predicate "ISTEXT" isText,
    predicate "ISLOGICAL" isLogical, .constant "NA" notAvailable]

end Worksheet.Information
