import Worksheet.Decimal.Binary
import Worksheet.Text.Basic

/-! Numbers read from text. A literal is an optional sign followed by one of the words `inf`,
`infinity` and `nan` in any case, or by digits with at most one point and at least one digit, and
then optionally `e` or `E` with a signed whole exponent. Nothing else may stand in the text. The
value is the nearest double, with infinity above the largest one and zero below the smallest. -/

namespace Worksheet.Decimal

structure Literal where
  whole : List Char
  fraction : List Char
  exponent : Int
deriving DecidableEq, Repr

def splitSign : List Char → Bool × List Char
  | '+' :: cs => (false, cs)
  | '-' :: cs => (true, cs)
  | cs => (false, cs)

namespace Literal

/-- The size of an exponent. Once it has reached 65536 further digits do not count, for by then the
value has long left the range of doubles. -/
def exponentSize (ds : List Char) : Nat :=
  ds.foldl (fun n c => if n < 65536 then 10 * n + (c.toNat - 48) else n) 0

def exponent? : List Char → Option Int
  | [] => some 0
  | c :: cs =>
    let (negative, ds) := splitSign cs
    if (c = 'e' || c = 'E') && Text.isNatural ds then
      some (if negative then -(exponentSize ds : Int) else exponentSize ds)
    else none

def splitFraction : List Char → List Char × List Char
  | '.' :: cs => (cs.takeWhile Char.isDigit, cs.dropWhile Char.isDigit)
  | cs => ([], cs)

def parse? (cs : List Char) : Option Literal :=
  let whole := cs.takeWhile Char.isDigit
  let (fraction, rest) := splitFraction (cs.dropWhile Char.isDigit)
  if whole = [] && fraction = [] then none
  else (exponent? rest).map fun e => ⟨whole, fraction, e⟩

/-- The bits of the nearest double. The literal has `n` digits from its first digit other than zero,
so it lies between `10 ^ (n + scale - 1)` and `10 ^ (n + scale)`; beyond 310 and below -330 the
answer does not depend on the digits. -/
def toBits (l : Literal) : Nat :=
  let ds := l.whole ++ l.fraction
  let digits := Text.natOfDigits ds
  let scale : Int := l.exponent - l.fraction.length
  let top := ((ds.dropWhile (· == '0')).length : Int) + scale
  if digits = 0 then 0
  else if 310 < top then infinityBits
  else if top < -330 then 0
  else (Magnitude.nearest (digits * Nat.pow 10 scale.toNat) (Nat.pow 10 (-scale).toNat)).toBits

end Literal

def wordBits? (cs : List Char) : Option Nat :=
  if Text.sameLetters cs "inf".toList || Text.sameLetters cs "infinity".toList then
    some infinityBits
  else if Text.sameLetters cs "nan".toList then
    some nanBits
  else none

def parse? (cs : List Char) : Option Float :=
  let (negative, body) := splitSign cs
  (((Literal.parse? body).map Literal.toBits) <|> wordBits? body).map (signed negative)

end Worksheet.Decimal
