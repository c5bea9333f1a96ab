/-
**Enumerations as source.**

An enumeration is written as a type of its constants, the first of them being the default, and two
conversions: `lexical` gives the value in the schema that a constant stands for, `from_lexical` the
first constant that stands for a value.
-/

import SchemaBinding.Model.Enumeration
import SchemaBinding.Source.Layout

namespace SchemaBinding

def sourceLiteral (text : String) : String := quoted .careful text

namespace Enumeration

/-- The lines that declare constants of the given names. -/
def constantLines (names : List String) : Lines :=
  match names with
  | [] => []
  | first :: rest => "#[default]" :: (first ++ ",") :: rest.map (· ++ ",")

def lexicalArms (constants : List EnumConstant) : Lines :=
  constants.map fun c => "Self::" ++ c.name ++ " => " ++ sourceLiteral c.lexical ++ ","

/-- The arms of `from_lexical` but the last, which answers for all other values. -/
def fromLexicalArms (constants : List EnumConstant) : Lines :=
  constants.map fun c => sourceLiteral c.lexical ++ " => Some(Self::" ++ c.name ++ "),"

def conversionLines (constants : List EnumConstant) : Lines :=
  ["/// Returns the value as written in the schema.", "#[must_use]"] ++
    Lines.block "pub const fn lexical(&self) -> &'static str"
      (Lines.block "match self" (lexicalArms constants)) ++
    ["", "/// Parses a value as written in the schema.", "#[must_use]"] ++
    Lines.block "pub fn from_lexical(value: &str) -> Option<Self>"
      (Lines.block "match value" (fromLexicalArms constants ++ ["_ => None,"]))

/-- The source of an enumeration, if its name and those of its constants can be written. -/
def source (enumeration : Enumeration) : Except GenerationFault Lines := do
  let name ← checkIdentifier enumeration.name
  let names ← enumeration.constants.mapM fun c => checkIdentifier c.name
  return ["/// Generated from simple type `" ++ enumeration.schemaName ++ "`.",
      "#[derive(Debug, Clone, Copy, PartialEq, Eq, Hash, Default)]"] ++
    Lines.block ("pub enum " ++ name) (constantLines names) ++ [""] ++
    Lines.block ("impl " ++ name) (conversionLines enumeration.constants) ++ [""]

end Enumeration

end SchemaBinding
