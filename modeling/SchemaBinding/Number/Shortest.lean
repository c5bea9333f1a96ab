/-
**The fewest decimal digits that read back.**

A finite value `m · 2^q` is the rounding of every real number in an interval around it, whose ends
belong to it when `m` is even. For one digit, two digits and so on, the two neighbours of the value
on that decimal grid are tried: the first grid with a neighbour inside the interval gives the
answer, of two neighbours inside the nearer one, and the upper one on a tie.
-/

import SchemaBinding.Number.FloatFormat

namespace SchemaBinding

/-- A decimal number: the digits as a number, times ten to the exponent. -/
structure Decimal where
  digits : Nat
  exponent : Int
deriving DecidableEq, Repr, Inhabited

def digitChars (n : Nat) : List Char := Nat.toDigits 10 n

/-- The exponent of the largest power of ten that a positive quotient reaches. -/
def floorLog10 (numerator denominator : Nat) : Int :=
  let estimate : Int := (digitChars numerator).length - (digitChars denominator).length
  if denominator * tenPow estimate.toNat ≤ numerator * tenPow (-estimate).toNat then estimate
  else estimate - 1

/-- The interval of a value in quarters of its last bit: the value, the ends, and whether the ends
belong to the interval. -/
structure RoundingInterval where
  low : Nat
  middle : Nat
  high : Nat
  closed : Bool
deriving DecidableEq, Repr

/-- The reals that round to `significand · 2^exponent`. The gap below a power of two is half as
wide as the gap above it, unless the exponent is already the smallest. -/
def FloatFormat.interval (format : FloatFormat) (significand : Nat) (exponent : Int) :
    RoundingInterval :=
  let narrow := significand = format.hiddenUnit ∧ format.minExponent < exponent
  { low := 4 * significand - (if narrow then 1 else 2)
    middle := 4 * significand
    high := 4 * significand + 2
    closed := significand % 2 == 0 }

/-- The shortest decimal on the grid of `count` digits inside the interval of a value, if the grid
has one. The decimal digits are compared with quarters of the last bit of the value by bringing
both to one unit. -/
def FloatFormat.decimalOnGrid? (format : FloatFormat) (significand : Nat) (exponent : Int)
    (count : Nat) : Option Decimal :=
  let leading := floorLog10 (significand * twoPow exponent.toNat) (twoPow (-exponent).toNat)
  let grid := leading - (count - 1 : Nat)
  let quarter := exponent - 2
  let gridUnit := tenPow grid.toNat * twoPow (-quarter).toNat
  let quarterUnit := twoPow quarter.toNat * tenPow (-grid).toNat
  let interval := format.interval significand exponent
  let inside (digits : Nat) : Bool :=
    if interval.closed then
      interval.low * quarterUnit ≤ digits * gridUnit && digits * gridUnit ≤ interval.high * quarterUnit
    else
      interval.low * quarterUnit < digits * gridUnit && digits * gridUnit < interval.high * quarterUnit
  let target := interval.middle * quarterUnit
  let below := target / gridUnit
  let above := below + 1
  let nearer := if target - below * gridUnit < above * gridUnit - target then below else above
  if inside nearer then some ⟨nearer, grid⟩
  else if inside below then some ⟨below, grid⟩
  else if inside above then some ⟨above, grid⟩
  else none

/-- The decimal without a trailing zero of the same value. -/
def Decimal.trimmed (d : Decimal) : Decimal :=
  if d.digits % 10 = 0 then ⟨d.digits / 10, d.exponent + 1⟩ else d

/-- The shortest decimal that reads back as `significand · 2^exponent`. Seventeen digits tell any
two values of either format apart, so the search ends there. -/
def FloatFormat.shortest (format : FloatFormat) (significand : Nat) (exponent : Int) : Decimal :=
  let found := (List.range 17).findSome? fun n =>
    format.decimalOnGrid? significand exponent (n + 1)
  (found.getD default).trimmed

end SchemaBinding
