/-! Double-precision numbers taken apart and put together. A finite number is a sign and a magnitude
`mantissa * 2 ^ exponent`; the exponent is never below -1074 and the mantissa stays below `2 ^ 53`.
`nearest` goes the other way: it rounds an exact fraction to the closest magnitude, a half to the
even mantissa. -/

namespace Worksheet.Decimal

def hiddenBit : Nat := 0x10000000000000

def signBit : Nat := 0x8000000000000000

def infinityBits : Nat := 0x7FF0000000000000

def nanBits : Nat := 0x7FF8000000000000

def lowestExponent : Int := -1074

structure Magnitude where
  mantissa : Nat
  exponent : Int
deriving DecidableEq, Repr

inductive Binary where
  | nan
  | infinite (negative : Bool)
  | finite (negative : Bool) (size : Magnitude)
deriving DecidableEq, Repr

namespace Binary

def ofBits (bits : UInt64) : Binary :=
  let fraction : Nat := bits.toNat % hiddenBit
  let field : Nat := bits.toNat / hiddenBit % 2048
  let negative := decide (signBit ≤ bits.toNat)
  if field = 2047 then
    if fraction = 0 then .infinite negative else .nan
  else if field = 0 then
    -- subnormal: the hidden bit is not set
    .finite negative ⟨fraction, lowestExponent⟩
  else
    .finite negative ⟨hiddenBit + fraction, lowestExponent + field - 1⟩

def ofFloat (x : Float) : Binary := ofBits x.toBits

end Binary

def roundHalfEven (num den : Nat) : Nat :=
  let q := num / den
  let twice := 2 * (num % den)
  if twice < den then q else if den < twice then q + 1 else q + q % 2

namespace Magnitude

/-- The exponent for a positive `num / den`: the mantissa fills 53 bits, unless that takes the
exponent below the lowest one. -/
def exponentOf (num den : Nat) : Int :=
  let guess : Int := max ((num.log2 : Int) - den.log2 - 53) lowestExponent
  if num <<< (-guess).toNat < (2 * hiddenBit * den) <<< guess.toNat then guess else guess + 1

def nearest (num den : Nat) : Magnitude :=
  let e := exponentOf num den
  ⟨roundHalfEven (num <<< (-e).toNat) (den <<< e.toNat), e⟩

/-- The bits of a magnitude without a sign. A mantissa of `2 ^ 53` carries into the exponent, and
everything from `2 ^ 1024` on is infinite. -/
def toBits (m : Magnitude) : Nat :=
  if m.mantissa < hiddenBit then m.mantissa
  else
    min infinityBits
      ((m.exponent - lowestExponent + 1).toNat * hiddenBit + (m.mantissa - hiddenBit))

end Magnitude

def signed (negative : Bool) (bits : Nat) : Float :=
  Float.ofBits (UInt64.ofNat (if negative then signBit + bits else bits))

end Worksheet.Decimal
