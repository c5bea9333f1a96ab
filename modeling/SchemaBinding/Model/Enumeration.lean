/-
**Enumerations of values, and their constants.**

An enumeration has one constant for each value, in order. A constant is named after its value; if
the value gives no usable name, or an earlier constant has it, the constant is named `Value` and a
number, the first one from its position on that is free. A value of the schema is found by exact
equality with the value of a constant, never by the name of the constant.
-/

import SchemaBinding.Model.Basic
import SchemaBinding.Naming.Fresh

namespace SchemaBinding

def numberedConstant (number : Nat) : String := "Value" ++ toString number

/-- The name of the constant for a value, after constants of the given names. -/
def constantNameAfter (taken : List String) (lexical : String) : String :=
  let fallback := numberedConstant (firstFree numberedConstant taken (taken.length + 1))
  match constantName? lexical with
  | some name => if taken.contains name then fallback else name
  | none => fallback

def addConstant (constants : List EnumConstant) (lexical : String) : List EnumConstant :=
  constants ++ [{ name := constantNameAfter (constants.map (·.name)) lexical, lexical }]

/-- The enumeration of a simple type with the given values. -/
def Enumeration.ofLexicals (schemaName : String) (lexicals : List String) : Enumeration where
  name := pascalCase schemaName
  schemaName
  constants := lexicals.foldl addConstant []

/-- Why a value is no constant of an enumeration. -/
inductive EnumLookupFault
  | typeNotFound (enumName value : String)
  | constantNotFound (enumName value : String)
deriving DecidableEq, Repr

def EnumLookupFault.message : EnumLookupFault → String
  | .typeNotFound enumName value => s!"could not find enum type {enumName} for value \"{value}\""
  | .constantNotFound enumName value =>
    s!"could not find enum constant of {enumName} for value \"{value}\""

/-- The first constant for a value in the first enumeration of a name. -/
def findEnumConstant (enums : List Enumeration) (enumName value : String) :
    Except EnumLookupFault EnumConstant :=
  match enums.find? (·.name == enumName) with
  | none => .error (.typeNotFound enumName value)
  | some enumeration =>
    match enumeration.constants.find? (·.lexical == value) with
    | none => .error (.constantNotFound enumName value)
    | some constant => .ok constant

/-- The constants stand for the values, in order. -/
theorem lexicals_foldl_addConstant (constants : List EnumConstant) (lexicals : List String) :
    (lexicals.foldl addConstant constants).map (·.lexical) =
      constants.map (·.lexical) ++ lexicals := by
  induction lexicals generalizing constants with
  | nil => simp
  | cons lexical rest ih =>
    rw [List.foldl_cons, ih]
    simp [addConstant]

theorem lexicals_ofLexicals (schemaName : String) (lexicals : List String) :
    (Enumeration.ofLexicals schemaName lexicals).constants.map (·.lexical) = lexicals :=
  lexicals_foldl_addConstant [] lexicals

end SchemaBinding
