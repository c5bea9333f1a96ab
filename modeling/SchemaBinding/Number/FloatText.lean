/-
**Floating-point numbers as text: in displays and as literals of source code.**

Both forms write the shortest digits that read back, positionally with at least one digit after the
point, or with an exponent. They differ in the numbers that take an exponent and in the names of
the values that are not finite. A display goes by the decimal exponent: from `10^16` on, and below
`10^-4`. A literal goes by the value: from `10^16` on, and below the double nearest to `10^-5`.
That double lies a little above `10^-5`, so the single-precision number nearest to `10^-5`, which
lies a little below it, is written with an exponent.
-/

import SchemaBinding.Number.Shortest

namespace SchemaBinding

namespace Decimal

/-- The exponent of the first digit. -/
def leading (d : Decimal) : Int := (digitChars d.digits).length + d.exponent - 1

/-- All digits before and after a point, with no exponent. -/
def positional (d : Decimal) : String :=
  let digits := digitChars d.digits
  if 0 ≤ d.exponent then
    String.ofList (digits ++ List.replicate d.exponent.toNat '0') ++ ".0"
  else
    let places := (-d.exponent).toNat
    let padded := List.replicate (places + 1 - digits.length) '0' ++ digits
    let split := padded.length - places
    String.ofList (padded.take split ++ '.' :: padded.drop split)

/-- One digit, a point and the other digits if there are any, and the exponent of the first. -/
def scientific (d : Decimal) : String :=
  let mantissa :=
    match digitChars d.digits with
    | first :: [] => [first]
    | first :: rest => first :: '.' :: rest
    | [] => []
  String.ofList mantissa ++ "e" ++ toString d.leading

end Decimal

/-- Whether `significand · 2^exponent` is at least ten to the sixteenth, or positive and below the
double nearest to ten to the minus fifth. -/
def literalTakesExponent (significand : Nat) (exponent : Int) : Bool :=
  let numerator := significand * twoPow exponent.toNat
  let denominator := twoPow (-exponent).toNat
  tenPow 16 * denominator ≤ numerator ||
    (significand ≠ 0 && numerator * twoPow 69 < 5902958103587057 * denominator)

def signText (negative : Bool) : String := if negative then "-" else ""

/-- The text of a number in displays. -/
def FloatFormat.display (format : FloatFormat) (bits : Nat) : String :=
  match format.value bits with
  | .nan => "NaN"
  | .infinity negative => signText negative ++ "inf"
  | .finite negative significand exponent =>
    signText negative ++
      if significand = 0 then "0.0"
      else
        let decimal := format.shortest significand exponent
        if decimal.leading < -4 ∨ 16 ≤ decimal.leading then decimal.scientific
        else decimal.positional

/-- The literal of a number in source code, where `typeName` is the type that names the constants
which are not finite. -/
def FloatFormat.literal (format : FloatFormat) (typeName : String) (bits : Nat) : String :=
  match format.value bits with
  | .nan => typeName ++ "::NAN"
  | .infinity negative => typeName ++ if negative then "::NEG_INFINITY" else "::INFINITY"
  | .finite negative significand exponent =>
    signText negative ++
      if significand = 0 then "0.0"
      else
        let decimal := format.shortest significand exponent
        if literalTakesExponent significand exponent then decimal.scientific
        else decimal.positional

end SchemaBinding
