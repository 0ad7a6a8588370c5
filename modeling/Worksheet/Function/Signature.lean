import Worksheet.Value.Basic

/-! Sheet functions and their signatures. A parameter is required when it has no default, and
required parameters come first. An eager parameter ends a call that binds it to a failure. The drive
of a signature tells which parameters turn a call into a calculation cell by cell when they are
bound to grids. A function is a signature with a rule for one cell and, if a call without a driving
grid goes by another rule, with that one as well. A rule gets one value per parameter. -/

namespace Worksheet

structure Parameter where
  name : String
  default? : Option Value
  eager : Bool

namespace Parameter

def required (name : String) : Parameter := ⟨name, none, true⟩

def optional (name : String) (default : Value) : Parameter := ⟨name, some default, true⟩

def lazy (p : Parameter) : Parameter := { p with eager := false }

def isRequired (p : Parameter) : Bool := p.default?.isNone

end Parameter

inductive Drive where
  | every
  | only (index : Nat)
deriving DecidableEq, Repr

namespace Drive

def drives : Drive → Nat → Bool
  | every, _ => true
  | only i, index => i == index

def isWithin : Drive → Nat → Bool
  | every, _ => true
  | only i, count => i < count

end Drive

def requiredFirst (params : List Parameter) : Bool :=
  (params.dropWhile Parameter.isRequired).all fun p => !p.isRequired

structure Signature where
  name : String
  params : List Parameter
  drive : Drive
  required_first : requiredFirst params = true
  drive_isWithin : drive.isWithin params.length = true

namespace Signature

def make (name : String) (params : List Parameter) (drive : Drive) : Except Breach Signature :=
  if required : requiredFirst params = true then
    match drive with
    | .every => .ok ⟨name, params, .every, required, rfl⟩
    | .only i =>
      if within : (Drive.only i).isWithin params.length = true then
        .ok ⟨name, params, .only i, required, within⟩
      else .error (.noDriver name i)
  else .error (.requiredAfterOptional name)

def least (s : Signature) : Nat := s.params.countP Parameter.isRequired

def most (s : Signature) : Nat := s.params.length

/-- The value of each parameter: its argument, or its default where the argument is omitted or
absent. There is none when a required parameter goes without. -/
def bindParams : List Parameter → List (Option Value) → Option (List Value)
  | [], _ => some []
  | p :: ps, args =>
    match args.head?.join.or p.default? with
    | none => none
    | some v => (bindParams ps args.tail).map (v :: ·)

def bind (s : Signature) (args : List (Option Value)) : Option (List Value) :=
  bindParams s.params args

def eagerFailure? (s : Signature) (bound : List Value) : Option Failure :=
  (s.params.zip bound).findSome? fun (p, v) => if p.eager then v.failure? else none

/-- Grids of one cell at driving parameters give way to their item. -/
def unwrapDriving (s : Signature) (bound : List Value) : List Value :=
  bound.mapIdx fun i v => if s.drive.drives i then v.unwrap else v

def isDriven (s : Signature) (bound : List Value) : Bool :=
  (bound.mapIdx fun i v => s.drive.drives i && v.isGrid).any id

theorem length_bindParams {ps : List Parameter} {args : List (Option Value)} {bound : List Value}
    (h : bindParams ps args = some bound) : bound.length = ps.length := by
  induction ps generalizing args bound with
  | nil => cases h; rfl
  | cons p ps ih =>
    rw [bindParams] at h
    split at h
    · cases h
    · obtain ⟨rest, hrest, rfl⟩ := Option.map_eq_some_iff.1 h
      simp [ih hrest]

@[simp] theorem length_unwrapDriving (s : Signature) (bound : List Value) :
    (s.unwrapDriving bound).length = bound.length := by
  simp [unwrapDriving]

end Signature

abbrev Rule := List Value → Except Breach Value

structure SheetFunction where
  signature : Signature
  cellRule : Rule
  scalarRule? : Option Rule

namespace SheetFunction

/-- The rule for a call in which no driving parameter is bound to a grid. -/
def scalarRule (f : SheetFunction) : Rule := f.scalarRule?.getD f.cellRule

def constant (name : String) (v : Value) : SheetFunction where
  signature :=
    { name := name
      params := []
      drive := .every
      required_first := rfl
      drive_isWithin := rfl }
  cellRule _ := .ok v
  scalarRule? := none

end SheetFunction

def argument (args : List Value) (i : Nat) : Except Breach Value :=
  match args[i]? with
  | some v => .ok v
  | none => .error (.noArgument args.length i)

end Worksheet
