import Worksheet.Address.Basic
import Worksheet.Decimal.Shortest
import Worksheet.Text.Basic

/-! The literals that a sheet stores, and the ten error markers among them. A marker has a token,
the text in the cell, and a code, the byte that stands for it in workbook files. A token is read
back in any case of its letters and with blanks around it. -/

namespace Worksheet

inductive Fault where
  | null
  | divZero
  | value
  | ref
  | name
  | num
  | na
  | gettingData
  | spill
  | calculation
deriving DecidableEq, Repr

namespace Fault

def all : List Fault := [null, divZero, value, ref, name, num, na, gettingData, spill, calculation]

def token : Fault → String
  | null => "#NULL!"
  | divZero => "#DIV/0!"
  | value => "#VALUE!"
  | ref => "#REF!"
  | name => "#NAME?"
  | num => "#NUM!"
  | na => "#N/A"
  | gettingData => "#GETTING_DATA"
  | spill => "#SPILL!"
  | calculation => "#CALC!"

def code : Fault → UInt8
  | null => 0x00
  | divZero => 0x07
  | value => 0x0F
  | ref => 0x17
  | name => 0x1D
  | num => 0x24
  | na => 0x2A
  | gettingData => 0x2B
  | spill => 0x2C
  | calculation => 0x2D

def ofCode? (n : UInt8) : Option Fault := all.find? (·.code == n)

structure UnknownToken where
  text : String
deriving DecidableEq, Repr

def UnknownToken.message (e : UnknownToken) : String := "Unknown error literal: " ++ e.text

def parse (s : String) : Except UnknownToken Fault :=
  match all.find? fun f => Text.sameLetters f.token.toList (Text.strip s.toList) with
  | some f => .ok f
  | none => .error ⟨s⟩

theorem mem_all (f : Fault) : f ∈ all := by cases f <;> decide

end Fault

inductive Cell where
  | blank
  | logical (b : Bool)
  | number (x : Float)
  | text (s : String)
  | fault (f : Fault)

namespace Cell

def isBlank : Cell → Bool
  | blank => true
  | _ => false

def isFault : Cell → Bool
  | fault _ => true
  | _ => false

def number? : Cell → Option Float
  | number x => some x
  | logical b => some (if b then 1 else 0)
  | _ => none

def text? : Cell → Option String
  | text s => some s
  | _ => none

def display : Cell → String
  | blank => ""
  | logical b => if b then "TRUE" else "FALSE"
  | number x => Decimal.positional x
  | text s => s
  | fault f => f.token

end Cell

/-- Anything cells can be read from: a cell, or nothing, at every address. -/
abbrev Source := Address → Option Cell

end Worksheet
