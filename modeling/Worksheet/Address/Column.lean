/-! Column letters, and the reasons for which a text is not the address of a cell. The columns are
counted from one in bijective base 26, with the letters `A` to `Z` as the digits 1 to 26: `Z` is 26,
`AA` is 27. Reading accepts either case and stops at the first letter that takes the number past the
last column. A reason that quotes the text quotes it as it was given. -/

namespace Worksheet

inductive AddressError where
  | noText
  | noLetters (text : String)
  | noDigits (text : String)
  | badRow (text : String)
  | rowZero (text : String)
  | noColumn
  | badLetter (c : Char)
  | rowBeyond (index : Nat)
  | columnBeyond (index : Nat)
deriving DecidableEq, Repr

def rowLimit : Nat := 1048576

def columnLimit : Nat := 16384

namespace AddressError

def message : AddressError → String
  | noText => "Invalid cell address: empty address"
  | noLetters text => "Invalid cell address: no column letters in '" ++ text ++ "'"
  | noDigits text => "Invalid cell address: no row number in '" ++ text ++ "'"
  | badRow text => "Invalid cell address: invalid row number in '" ++ text ++ "'"
  | rowZero text => "Invalid cell address: row number must be >= 1 in '" ++ text ++ "'"
  | noColumn => "Invalid cell address: empty column letters"
  | badLetter c => "Invalid cell address: invalid column letter '" ++ c.toString ++ "'"
  | rowBeyond index => beyond "Row" index rowLimit
  | columnBeyond index => beyond "Column" index columnLimit
where
  beyond (what : String) (index limit : Nat) : String :=
    what ++ " index " ++ toString index ++ " out of bounds (max: " ++ toString (limit - 1) ++ ")"

end AddressError

end Worksheet

namespace Worksheet.Column

def letters (n : Nat) : List Char :=
  if n = 0 then [] else letters ((n - 1) / 26) ++ [Char.ofNat (65 + (n - 1) % 26)]
termination_by n
decreasing_by omega

def name (col : UInt16) : String := String.ofList (letters (col.toNat + 1))

/-- A letter as a digit between 1 and 26. -/
def digit (c : Char) : Nat := c.toUpper.toNat - 64

/-- The column number that letters continue, checked letter by letter. -/
def extend (n : Nat) : List Char → Except AddressError Nat
  | [] => .ok n
  | c :: cs =>
    if c.isAlpha then
      if columnLimit < n * 26 + digit c then .error (.columnBeyond (n * 26 + digit c - 1))
      else extend (n * 26 + digit c) cs
    else .error (.badLetter c)

def ofLetters (cs : List Char) : Except AddressError UInt16 :=
  if cs = [] then .error .noColumn
  else (extend 0 cs).map fun n => UInt16.ofNat (n - 1)

def parse (s : String) : Except AddressError UInt16 := ofLetters s.toList

@[simp] theorem letters_zero : letters 0 = [] := by rw [letters]; rfl

theorem letters_succ (n : Nat) :
    letters (n + 1) = letters (n / 26) ++ [Char.ofNat (65 + n % 26)] := by
  rw [letters]; simp

end Worksheet.Column
