/-
**Lexical forms that the components of a schema are written in.**

These are the words of boolean values, of the use of an attribute and of the compositors, the
counts of occurrences, and the names of the built-in types. A word is read exactly as it is
written: case and surrounding blanks matter.
-/

import SchemaBinding.Number.Integer
import SchemaBinding.Schema.Basic

namespace SchemaBinding

def readBoolean? : String → Option Bool
  | "true" => some true
  | "1" => some true
  | "false" => some false
  | "0" => some false
  | _ => none

/-- Reads a count of 32 bits. -/
def readCount? (text : String) : Option UInt32 :=
  match readNatural 10 (UInt32.size - 1) text.toList with
  | .ok count => some (UInt32.ofNat count)
  | .error _ => none

def MaxOccurs.read? (text : String) : Option MaxOccurs :=
  if text = "unbounded" then some .unbounded else (readCount? text).map .bounded

def AttributeUse.word : AttributeUse → String
  | .optional => "optional"
  | .required => "required"
  | .prohibited => "prohibited"

def AttributeUse.read? : String → Option AttributeUse
  | "optional" => some .optional
  | "required" => some .required
  | "prohibited" => some .prohibited
  | _ => none

/-- The word of a compositor, which is also the local name of its tag. -/
def Compositor.word : Compositor → String
  | .sequence => "sequence"
  | .choice => "choice"
  | .all => "all"

def Compositor.read? : String → Option Compositor
  | "sequence" => some .sequence
  | "choice" => some .choice
  | "all" => some .all
  | _ => none

theorem AttributeUse.read?_word (use : AttributeUse) : read? use.word = some use := by
  cases use <;> rfl

theorem Compositor.read?_word (kind : Compositor) : read? kind.word = some kind := by
  cases kind <;> rfl

/-- The built-in types, as far as they are told apart. -/
inductive BuiltinType
  /-- Strings and all types of names and tokens. -/
  | string
  | boolean
  | byte
  | short
  | int
  | long
  | float
  | double
  | decimal
  /-- Integers without bounds, and those that fit no integer of 64 bits. -/
  | integer
  /-- Dates and times, whole or in part. -/
  | calendar
  | duration
  /-- Binary data in either encoding. -/
  | binary
  | qualifiedName
deriving DecidableEq, Repr

/-- The built-in type of a local name. -/
def BuiltinType.ofName? (name : String) : Option BuiltinType :=
  let table : List (BuiltinType × List String) := [
    (.string, ["string", "normalizedString", "token", "language", "Name", "NCName", "NMTOKEN",
      "ID", "IDREF", "ENTITY", "anyURI", "anySimpleType"]),
    (.boolean, ["boolean"]),
    (.byte, ["byte"]),
    (.short, ["short", "unsignedByte"]),
    (.int, ["int", "unsignedShort"]),
    (.long, ["long", "unsignedInt"]),
    (.float, ["float"]),
    (.double, ["double"]),
    (.decimal, ["decimal"]),
    (.integer, ["integer", "nonNegativeInteger", "positiveInteger", "nonPositiveInteger",
      "negativeInteger", "unsignedLong"]),
    (.calendar, ["date", "dateTime", "time", "gYear", "gYearMonth", "gMonth", "gMonthDay",
      "gDay"]),
    (.duration, ["duration"]),
    (.binary, ["base64Binary", "hexBinary"]),
    (.qualifiedName, ["QName"])]
  (table.find? fun entry => entry.2.contains name).map Prod.fst

end SchemaBinding
