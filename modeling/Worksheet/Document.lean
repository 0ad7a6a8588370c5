import Worksheet.Alignment
import Worksheet.Cell

/-! Settings and error markers as documents. A library writes and reads documents, and it derives
from a declaration how the values of a type are written and read. What it does is left to it: given
here is what is declared, which is the identifiers of modes and markers, and the fields of settings
with the settings that a document without them stands for. -/

namespace Worksheet

structure Codec (D α : Type) where
  write : α → D
  read? : D → Option α

/-- A field as it is declared. Reading gives what becomes of a record that the field is put into. -/
structure DeclaredField (D α : Type) where
  name : String
  write : α → D
  read? : D → Option (α → α)

structure Library where
  Document : Type
  string : Codec Document String
  natural : Codec Document UInt64
  object : Codec Document (List (String × Document))
  /-- The name of a value that is declared under an identifier of capitalised words. -/
  snakeCase : String → String
  choice {α : Type} (values : List α) (name : α → String) : Codec Document α
  /-- The codec for records with such fields, and with a record for the fields that are missing. -/
  record {α : Type} (fields : List (DeclaredField Document α)) (default : α) : Codec Document α

namespace Fault

def identifier : Fault → String
  | null => "Null"
  | divZero => "Div0"
  | value => "Value"
  | ref => "Ref"
  | name => "Name"
  | num => "Num"
  | na => "Na"
  | gettingData => "GettingData"
  | spill => "Spill"
  | calculation => "Calc"

def codec (lib : Library) : Codec lib.Document Fault := lib.choice all identifier

end Fault

namespace Stretch

def all : List Stretch := [pad, replicate]

def identifier : Stretch → String
  | pad => "PadWithFill"
  | replicate => "ReplicateVectors"

def codec (lib : Library) : Codec lib.Document Stretch :=
  lib.choice all fun m => lib.snakeCase m.identifier

end Stretch

namespace Settings

inductive Field where
  | stretch
  | limit
deriving DecidableEq, Repr

namespace Field

def all : List Field := [stretch, limit]

def name : Field → String
  | stretch => "expansion"
  | limit => "max_array_cells"

def declared (lib : Library) : Field → DeclaredField lib.Document Settings
  | stretch =>
    { name := stretch.name
      write s := (Stretch.codec lib).write s.stretch
      read? d := ((Stretch.codec lib).read? d).map fun m s => { s with stretch := m } }
  | limit =>
    { name := limit.name
      write s := lib.natural.write s.cellLimit
      read? d := (lib.natural.read? d).map fun n s => { s with cellLimit := n } }

end Field

def codec (lib : Library) : Codec lib.Document Settings :=
  lib.record (Field.all.map (Field.declared lib)) standard

end Settings

end Worksheet
