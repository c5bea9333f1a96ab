/-
**Decimal floating-point numbers read from text.**

A number is an optional sign, digits that may hold one point but not be missing altogether, and
optionally an exponent of one or more digits with a sign of its own. Its exact value, an integer
times a power of ten, is rounded once to the format asked for. A number whose order of magnitude
lies far outside every format is settled before its power of ten is computed, so that a long
exponent costs no more than a short one.
-/

import SchemaBinding.Number.FloatFormat

namespace SchemaBinding

/-- Why a text is not a floating-point number. -/
inductive FloatFault
  | empty
  | invalid
deriving DecidableEq, Repr

def FloatFault.message : FloatFault → String
  | .empty => "cannot parse float from empty string"
  | .invalid => "invalid float literal"

/-- A decimal number as it is written: the digits before and after the point, and the exponent. -/
structure DecimalLexeme where
  negative : Bool
  whole : List Char
  fraction : List Char
  exponent : Int
deriving DecidableEq, Repr

/-- Takes an optional sign off the front, and tells whether it was a minus. -/
def splitSign : List Char → Bool × List Char
  | '-' :: rest => (true, rest)
  | '+' :: rest => (false, rest)
  | text => (false, text)

def decimalValue (digits : List Char) : Nat :=
  digits.foldl (fun value c => value * 10 + (c.toNat - 48)) 0

/-- Reads what may follow the digits: nothing, or a marker and an exponent. -/
def readExponent? : List Char → Option Int
  | [] => some 0
  | marker :: rest =>
    if marker = 'e' ∨ marker = 'E' then
      let (negative, digits) := splitSign rest
      if digits.isEmpty ∨ digits.any (!·.isDigit) then none
      else some (if negative then -decimalValue digits else decimalValue digits)
    else none

/-- Splits the digits after the point, if there is a point, from what follows them. -/
def splitFraction : List Char → List Char × List Char
  | '.' :: rest => (rest.takeWhile Char.isDigit, rest.dropWhile Char.isDigit)
  | text => ([], text)

/-- Reads a decimal number; the whole text has to belong to it. -/
def readDecimal? (text : List Char) : Option DecimalLexeme :=
  let (negative, unsigned) := splitSign text
  let whole := unsigned.takeWhile Char.isDigit
  let (fraction, tail) := splitFraction (unsigned.dropWhile Char.isDigit)
  if whole.isEmpty ∧ fraction.isEmpty then none
  else (readExponent? tail).map fun exponent => ⟨negative, whole, fraction, exponent⟩

namespace DecimalLexeme

/-- All digits in order, as a number. -/
def significand (d : DecimalLexeme) : Nat := decimalValue (d.whole ++ d.fraction)

/-- The power of ten that belongs to the last digit. -/
def scale (d : DecimalLexeme) : Int := d.exponent - d.fraction.length

/-- The power of ten that the absolute value of a number other than zero stays below. -/
def magnitude (d : DecimalLexeme) : Int :=
  ((d.whole ++ d.fraction).dropWhile (· == '0')).length + d.scale

/-- The bit pattern of the value of the format nearest to the number. -/
def toBits (format : FloatFormat) (d : DecimalLexeme) : Nat :=
  let unsigned :=
    if d.magnitude > 400 then if d.significand = 0 then 0 else format.infinityBits
    else if d.magnitude < -400 then 0
    else format.round (d.significand * tenPow d.scale.toNat) (tenPow (-d.scale).toNat)
  format.signBits d.negative + unsigned

end DecimalLexeme

/-- Reads a number to the bit pattern of the nearest value of the format. -/
def readFloat (format : FloatFormat) (text : List Char) : Except FloatFault Nat :=
  if text.isEmpty then .error .empty
  else
    match readDecimal? text with
    | some number => .ok (number.toBits format)
    | none => .error .invalid

end SchemaBinding
