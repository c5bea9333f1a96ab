/-
**Classes as source.**

A class is written as a structure of its fields, each behind a comment that names its component. If
no member of the class has an initializer, the default value of the structure is derived. Otherwise
it is written out: first the static members, which are created when they are first used, and then
all fields in order, each with its initializer or the default of its type.
-/

import SchemaBinding.Model.Basic
import SchemaBinding.Source.Layout

namespace SchemaBinding

/-- The type of a field, inside a list if it is repeated and else inside an option if it is
optional. -/
def Field.sourceType (field : Field) : String :=
  if field.repeated then "Vec<" ++ field.type.typeName ++ ">"
  else if field.optional then "Option<" ++ field.type.typeName ++ ">"
  else field.type.typeName

/-- The value of a field in the default value of its structure. -/
def Field.sourceValue (field : Field) : String :=
  match field.initializer with
  | none => "Default::default()"
  | some expr =>
    let value :=
      match expr with
      | .text _ => "String::from(" ++ expr.source ++ ")"
      | _ => expr.source
    if field.optional then "Some(" ++ value ++ ")" else value

/-- The lines of a field in its structure. -/
def Field.declarationLines (field : Field) : Except GenerationFault Lines := do
  let name ← checkIdentifier field.name
  return ["/// Schema component `" ++ field.schemaName ++ "`.",
    "pub " ++ name ++ ": " ++ field.sourceType ++ ","]

/-- The line of a field in the default value of its structure. -/
def Field.valueLine (field : Field) : String := field.name ++ ": " ++ field.sourceValue ++ ","

/-- The expression that creates a static member. -/
def StaticInit.source : StaticInit → String
  | .value expr => expr.source
  | .failFast create message =>
    "match " ++ create.source ++ " \x7b Ok(value) => value, Err(err) => panic!(\"\x7b\x7d: \x7b\x7d\", " ++
      quoted .careful message ++ ", err) \x7d"

def StaticMember.line (member : StaticMember) : Except GenerationFault String := do
  let name ← checkIdentifier member.name
  return "static " ++ name ++ ": std::sync::LazyLock<" ++ member.typeName ++
    "> = std::sync::LazyLock::new(|| " ++ member.init.source ++ ");"

namespace DataClass

/-- The line that derives what need not be written out. -/
def deriveLine (c : DataClass) : String :=
  if c.hasInitializers then "#[derive(Debug, Clone)]" else "#[derive(Debug, Clone, Default)]"

def structSource (c : DataClass) : Except GenerationFault Lines := do
  let name ← checkIdentifier c.name
  let fields ← c.fields.mapM Field.declarationLines
  return ["/// Generated from complex type `" ++ c.schemaName ++ "`.", c.deriveLine] ++
    Lines.block ("pub struct " ++ name) fields.flatten ++ [""]

/-- The default value of a class, written out. -/
def defaultSource (c : DataClass) : Except GenerationFault Lines := do
  let statics ← c.statics.mapM StaticMember.line
  return Lines.block ("impl Default for " ++ c.name)
    (Lines.block "fn default() -> Self"
      (statics ++ Lines.block "Self" (c.fields.map Field.valueLine))) ++ [""]

def source (c : DataClass) : Except GenerationFault Lines := do
  let structLines ← c.structSource
  if c.hasInitializers then return structLines ++ (← c.defaultSource) else return structLines

end DataClass

end SchemaBinding
