import Std.Data.TreeMap.Lemmas
import Worksheet.Alignment
import Worksheet.Function.Arithmetic
import Worksheet.Function.Logical
import Worksheet.Text.Upper

/-! Catalogs of sheet functions, and calls. A function is entered under the upper case of its name,
where it replaces an earlier one, and it is found by any spelling with the same upper case. A call
binds its arguments, ends at the first failure of an eager parameter, and unwraps grids of one cell
where they drive. Without a driving grid the scalar rule gives the answer; otherwise all arguments
are aligned to their common extent and the cell rule is applied at every place, as long as the
settings allow that many cells. -/

namespace Worksheet

structure Catalog where
  functions : Std.TreeMap String SheetFunction

namespace Catalog

def empty : Catalog := ⟨∅⟩

def register (c : Catalog) (f : SheetFunction) : Catalog :=
  ⟨c.functions.insert (Text.upper f.signature.name) f⟩

def find? (c : Catalog) (name : String) : Option SheetFunction := c.functions[Text.upper name]?

def names (c : Catalog) : List String := c.functions.keys

def size (c : Catalog) : Nat := c.functions.size

def isEmpty (c : Catalog) : Bool := c.functions.isEmpty

def standard : Catalog :=
  (Logical.functions ++ Information.functions ++ Arithmetic.functions).foldl register empty

@[simp] theorem find?_empty (name : String) : empty.find? name = none := by simp [empty, find?]

theorem find?_register (c : Catalog) (f : SheetFunction) (name : String) :
    (c.register f).find? name =
      if Text.upper f.signature.name = Text.upper name then some f else c.find? name := by
  simp [register, find?, Std.TreeMap.getElem?_insert]

end Catalog

inductive CallError where
  | unknownFunction (name : String)
  | argumentCount (function : String) (least most actual : Nat)
  | breach (b : Breach)
deriving DecidableEq, Repr

namespace CallError

def expected (least most : Nat) : String :=
  if least = most then toString least else toString least ++ " to " ++ toString most

def message : CallError → String
  | unknownFunction name => "Unknown function: " ++ name
  | argumentCount function least most actual =>
    "Wrong number of arguments for " ++ function ++ ": expected " ++ expected least most ++
      ", got " ++ toString actual
  | breach b => b.message

end CallError

namespace SheetFunction

variable (make : Maker) (f : SheetFunction) (settings : Settings)

def acrossCellsBy (args : List Value) : Except Breach Value :=
  let target := commonExtent args
  if settings.allows target then do
    let grids ← spreadAllBy make args .notAvailable settings.stretch
    let answer ← make target fun r c => do
      f.cellRule (← grids.mapM fun g => (g.get r c).map Value.item)
    return .grid answer
  else return .fault .spill

def applyBy (bound : List Value) : Except Breach Value :=
  match f.signature.eagerFailure? bound with
  | some e => .ok (.failure e)
  | none =>
    let args := f.signature.unwrapDriving bound
    if f.signature.isDriven args then acrossCellsBy make f settings args else f.scalarRule args

/-- A call whose grids are made in a given way; an omitted argument is `none`. -/
def invokeBy (args : List (Option Value)) : Except CallError Value :=
  if f.signature.most < args.length then
    .error (.argumentCount f.signature.name f.signature.least f.signature.most args.length)
  else
    match f.signature.bind args with
    | none => .ok .notAvailable
    | some bound => (applyBy make f settings bound).mapError .breach

def invoke (args : List (Option Value)) : Except CallError Value :=
  invokeBy settings.maker f settings args

end SheetFunction

structure Engine where
  catalog : Catalog
  settings : Settings

namespace Engine

def standard : Engine := ⟨.standard, .standard⟩

def call (e : Engine) (name : String) (args : List (Option Value)) : Except CallError Value :=
  match e.catalog.find? name with
  | some f => f.invoke e.settings args
  | none => .error (.unknownFunction name)

end Engine

end Worksheet
