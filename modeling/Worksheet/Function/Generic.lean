import Worksheet.Function.Signature
import Worksheet.Value.Build

/-! Rules that fit every signature: they take all arguments alike, however many there are. A host
registers functions with them. Beside them stand rules on an item and its place, for mapping over
values and for making grids. -/

namespace Worksheet.Place

def index (row col : Nat) : Float := Float.ofNat (row * 1000 + col)

def beside (a b : Item) : Grid :=
  .tabulate 1 2 (by decide) (by decide) fun _ c => if c = 0 then a else b

inductive Rule where
  | index
  | identity
  | caption
  | blank
  | pair
deriving DecidableEq, Repr

def Rule.apply : Rule → Item → Nat → Nat → Value
  | index, _, r, c => .number (Place.index r c)
  | identity, i, _, _ => .item i
  | caption, i, r, c => .text (i.display ++ "@" ++ toString r ++ "," ++ toString c)
  | blank, _, _, _ => .blank
  | pair, i, r, c => .grid (beside i (.scalar (.number (Place.index r c))))

end Worksheet.Place

namespace Worksheet

inductive GenericRule where
  | captions
  | first
  | last
  | blank
  | kinds
  | sum
  | pair
deriving DecidableEq, Repr

namespace GenericRule

def kind : Value → Char
  | .blank => '0'
  | .number _ => 'n'
  | .logical _ => 'b'
  | .text _ => 's'
  | .failure _ => 'e'
  | .grid _ => 'a'

def sumFrom (total : Float) : List Value → Value
  | [] => .number total
  | .failure e :: _ => .failure e
  | .grid _ :: _ => .fault .calculation
  | .scalar s :: rest =>
    match s.toNumber with
    | .ok x => sumFrom (total + x) rest
    | .error f => .fault f

def firstOf (args : List Value) : Value := args.head?.getD .notAvailable

def lastOf (args : List Value) : Value := args.getLast?.getD .notAvailable

def apply : GenericRule → List Value → Value
  | captions, args => .text ("|".intercalate (args.map Value.display))
  | first, args => firstOf args
  | last, args => lastOf args
  | blank, _ => .blank
  | kinds, args => .text (String.ofList (args.map kind))
  | sum, args => sumFrom 0 args
  | pair, args => .grid (Place.beside (firstOf args).toItem (lastOf args).toItem)

def rule (g : GenericRule) : Rule := fun args => .ok (g.apply args)

end GenericRule

end Worksheet
