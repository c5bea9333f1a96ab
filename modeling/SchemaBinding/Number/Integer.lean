/-
**Integers read from digits, with the reason of a failure.**

An integer is an optional sign and one or more ASCII digits, and has to lie in the range of its
width. Digits are taken from left to right and the first problem decides the reason: a character
that is no digit is found before it could make the number too large, and a number that is already
too large ends the reading whatever follows.
-/

import SchemaBinding.Number.Power

namespace SchemaBinding

/-- Why a text is not an integer of a range. -/
inductive IntegerFault
  | empty
  /-- There is a character that is no digit, or a sign alone. -/
  | invalidDigit
  | tooLarge
  | tooSmall
deriving DecidableEq, Repr

def IntegerFault.message : IntegerFault → String
  | .empty => "cannot parse integer from empty string"
  | .invalidDigit => "invalid digit found in string"
  | .tooLarge => "number too large to fit in target type"
  | .tooSmall => "number too small to fit in target type"

/-- The value of an ASCII digit of the radix; letters of either case are the digits from ten on. -/
def digitValue? (radix : Nat) (c : Char) : Option Nat :=
  let value :=
    if '0' ≤ c ∧ c ≤ '9' then c.toNat - 48
    else if 'a' ≤ c ∧ c ≤ 'z' then c.toNat - 87
    else if 'A' ≤ c ∧ c ≤ 'Z' then c.toNat - 55
    else radix
  if value < radix then some value else none

/-- Appends digits to a number that must not exceed the limit; `fault` is the reason if it does. -/
def readDigits (radix limit : Nat) (fault : IntegerFault) :
    Nat → List Char → Except IntegerFault Nat
  | value, [] => .ok value
  | value, c :: rest =>
    match digitValue? radix c with
    | none => .error .invalidDigit
    | some digit =>
      let next := value * radix + digit
      if next ≤ limit then readDigits radix limit fault next rest else .error fault

def readMagnitude (radix limit : Nat) (fault : IntegerFault) (digits : List Char) :
    Except IntegerFault Nat :=
  if digits.isEmpty then .error .invalidDigit else readDigits radix limit fault 0 digits

/-- Reads a number from zero to the limit. A `+` may precede the digits; a `-` is no digit. -/
def readNatural (radix limit : Nat) : List Char → Except IntegerFault Nat
  | [] => .error .empty
  | '+' :: digits => readMagnitude radix limit .tooLarge digits
  | digits => readMagnitude radix limit .tooLarge digits

/-- Reads a decimal number of the two's complement range of `bits + 1` bits, with an optional sign
before the digits. -/
def readInteger (bits : Nat) : List Char → Except IntegerFault Int
  | [] => .error .empty
  | '-' :: digits => (readMagnitude 10 (twoPow bits) .tooSmall digits).map fun n : Nat => -(n : Int)
  | '+' :: digits => (readMagnitude 10 (twoPow bits - 1) .tooLarge digits).map Int.ofNat
  | digits => (readMagnitude 10 (twoPow bits - 1) .tooLarge digits).map Int.ofNat

end SchemaBinding
