/-
**Binary floating-point formats, and rounding of exact quotients to them.**

A format is given by the bits of its significand and of its exponent field. A bit pattern stands
for a `FloatValue`, a finite one being an integer significand times a power of two. In the other
direction `FloatFormat.round` takes an exact quotient of natural numbers to the nearest value of
the format, a tie going to the even significand, and what exceeds the largest value to infinity.
Everything is arithmetic of natural numbers on bit patterns, so that nothing is rounded twice.
-/

import SchemaBinding.Number.Power

namespace SchemaBinding

/-- The layout of a binary floating-point number. -/
structure FloatFormat where
  /-- Bits of the significand, the implicit leading bit included. -/
  precision : Nat
  /-- Bits of the exponent field. -/
  exponentBits : Nat
deriving DecidableEq, Repr

/-- What a bit pattern stands for. -/
inductive FloatValue
  | nan
  | infinity (negative : Bool)
  /-- The significand times two to the exponent, with a sign that zero has as well. -/
  | finite (negative : Bool) (significand : Nat) (exponent : Int)
deriving DecidableEq, Repr

/-- The quotient rounded to the nearest natural number, a tie to the even one. -/
def nearestQuotient (numerator denominator : Nat) : Nat :=
  let floor := numerator / denominator
  let twice := 2 * (numerator % denominator)
  if twice < denominator ∨ (twice = denominator ∧ floor % 2 = 0) then floor else floor + 1

/-- Whether the quotient is at least two to the exponent. -/
def atLeastPowerOfTwo (numerator denominator : Nat) (exponent : Int) : Bool :=
  denominator * twoPow exponent.toNat ≤ numerator * twoPow (-exponent).toNat

/-- The exponent of the largest power of two that a positive quotient reaches. -/
def floorLog2 (numerator denominator : Nat) : Int :=
  let estimate : Int := numerator.log2 - denominator.log2
  if atLeastPowerOfTwo numerator denominator estimate then estimate else estimate - 1

namespace FloatFormat

def single : FloatFormat := ⟨24, 8⟩

def double : FloatFormat := ⟨53, 11⟩

/-- The exponent that belongs to the last bit of the smallest positive value. -/
def minExponent (format : FloatFormat) : Int :=
  3 - twoPow (format.exponentBits - 1) - format.precision

/-- The number of significands below the implicit leading bit. -/
def hiddenUnit (format : FloatFormat) : Nat := twoPow (format.precision - 1)

def infinityBits (format : FloatFormat) : Nat :=
  (twoPow format.exponentBits - 1) * format.hiddenUnit

/-- The bit pattern of the quiet not-a-number without payload. -/
def nanBits (format : FloatFormat) : Nat := format.infinityBits + format.hiddenUnit / 2

/-- The sign bit at its place, or zero. -/
def signBits (format : FloatFormat) (negative : Bool) : Nat :=
  if negative then twoPow format.exponentBits * format.hiddenUnit else 0

/-- The value of a bit pattern. -/
def value (format : FloatFormat) (bits : Nat) : FloatValue :=
  let fraction := bits % format.hiddenUnit
  let field := bits / format.hiddenUnit % twoPow format.exponentBits
  let negative := bits / (twoPow format.exponentBits * format.hiddenUnit) % 2 == 1
  if field = twoPow format.exponentBits - 1 then
    if fraction = 0 then .infinity negative else .nan
  else if field = 0 then .finite negative fraction format.minExponent
  else .finite negative (fraction + format.hiddenUnit) (format.minExponent + field - 1)

/-- The bit pattern, without sign, of the value nearest to a quotient.

The significand is rounded at the exponent that leaves it `precision` bits, or at the smallest
exponent of the format. Adding it to the exponent field is right for normal and subnormal numbers
alike, also when rounding carries into the next power of two, since the implicit leading bit then
counts the field up by one. -/
def round (format : FloatFormat) (numerator denominator : Nat) : Nat :=
  if numerator = 0 then 0
  else
    let leading := floorLog2 numerator denominator
    let exponent := max format.minExponent (leading - (format.precision - 1 : Nat))
    let significand :=
      nearestQuotient (numerator * twoPow (-exponent).toNat) (denominator * twoPow exponent.toNat)
    let field := (exponent - format.minExponent).toNat
    min format.infinityBits (field * format.hiddenUnit + significand)

end FloatFormat

end SchemaBinding
