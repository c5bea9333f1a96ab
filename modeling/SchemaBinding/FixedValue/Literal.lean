/-
**Fixed values read as literals.**

The type of a field decides how its fixed value is read. Integers have the range of the field,
floating-point numbers are rounded to its format; besides decimal numbers these have three special
values with one spelling each, and every other word is refused before it is read as a number. A
repeated field has no literal, whatever the type of its elements.
-/

import SchemaBinding.Model.Basic
import SchemaBinding.Number.FloatLexical

namespace SchemaBinding

/-- The width of an integer that is written as a 32-bit literal. -/
inductive IntegerWidth
  | bits8
  | bits16
  | bits32
deriving DecidableEq, Repr

/-- The number of bits of a width that count, without the sign. -/
def IntegerWidth.magnitudeBits : IntegerWidth → Nat
  | .bits8 => 7
  | .bits16 => 15
  | .bits32 => 31

/-- How a fixed value becomes an initializer. -/
inductive LiteralKind
  | text
  | boolean
  | narrowInteger (width : IntegerWidth)
  | longInteger
  | float
  | double
  /-- A constant of the named enumeration. -/
  | enumeration (name : String)
  /-- A date or time, built through the static member of the class. -/
  | temporal
  /-- None, for the named type. -/
  | unsupported (typeName : String)
deriving DecidableEq, Repr

/-- How the fixed value of a field becomes an initializer. -/
def LiteralKind.ofField (field : Field) : LiteralKind :=
  if field.repeated then .unsupported ("Vec<" ++ field.type.typeName ++ ">")
  else
    match field.type with
    | .text => .text
    | .boolean => .boolean
    | .byte => .narrowInteger .bits8
    | .short => .narrowInteger .bits16
    | .int => .narrowInteger .bits32
    | .long => .longInteger
    | .float => .float
    | .double => .double
    | .calendar => .temporal
    | .enumeration name => .enumeration name
    | .dataClass name => .unsupported name
    | .foreign _ typeName => .unsupported typeName

/-- Why a value is no literal of its type. -/
inductive LiteralFault
  | boolean (value : String)
  | integer (fault : IntegerFault)
  | float (fault : FloatFault)
  /-- A word that is neither a number nor the spelling of a special value. -/
  | floatWord (value : String)
deriving DecidableEq, Repr

def LiteralFault.message : LiteralFault → String
  | .boolean value => s!"'{value}' is not a boolean literal"
  | .integer fault => s!"invalid integer literal: {fault.message}"
  | .float fault => s!"invalid floating point literal: {fault.message}"
  | .floatWord value => s!"'{value}' is not an XSD floating point literal"

/-- The wording of a literal fault and of the fault inside it. -/
def LiteralFault.causes (fault : LiteralFault) : List String :=
  fault.message :: match fault with
    | .integer inner => [inner.message]
    | .float inner => [inner.message]
    | _ => []

def readBoolean (value : String) : Except LiteralFault Bool :=
  match readBoolean? value with
  | some result => .ok result
  | none => .error (.boolean value)

/-- Reads an integer of a field of the given width. -/
def readNarrow (width : IntegerWidth) (value : String) : Except LiteralFault Int32 :=
  ((readInteger width.magnitudeBits value.toList).mapError LiteralFault.integer).map Int32.ofInt

def readLong (value : String) : Except LiteralFault Int64 :=
  ((readInteger 63 value.toList).mapError LiteralFault.integer).map Int64.ofInt

/-- Whether the character occurs in decimal numbers. -/
def isFloatCharacter (c : Char) : Bool :=
  c.isDigit || c == '+' || c == '-' || c == '.' || c == 'e' || c == 'E'

/-- Reads a floating-point number to the bits of a format. -/
def readFloatBits (format : FloatFormat) (value : String) : Except LiteralFault Nat :=
  match value with
  | "INF" => .ok format.infinityBits
  | "-INF" => .ok (format.signBits true + format.infinityBits)
  | "NaN" => .ok format.nanBits
  | _ =>
    if value.toList.all isFloatCharacter then
      (readFloat format value.toList).mapError LiteralFault.float
    else .error (.floatWord value)

def readSingle (value : String) : Except LiteralFault UInt32 :=
  (readFloatBits .single value).map UInt32.ofNat

def readDouble (value : String) : Except LiteralFault UInt64 :=
  (readFloatBits .double value).map UInt64.ofNat

/-- The method that builds a date or time from its text. -/
def calendarMethod : String := "new_xml_gregorian_calendar"

/-- A date or time, built through a static member. -/
def temporalExpr (slot value : String) : Expr :=
  .invoke (.staticMember slot) calendarMethod [.text value]

end SchemaBinding
