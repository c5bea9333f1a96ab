/-
**What can be wrong with a schema document.**

Below the faults of the markup itself stand those of its meaning: an attribute that is missing or
has no readable value, a component that is defined twice, and a document that does not have the
structure of a schema.
-/

import SchemaBinding.Markup.Fault
import SchemaBinding.Markup.Tag

namespace SchemaBinding

open Markup (DocumentFault AttributeFault EscapeFault TagFault)

/-- The kinds of components whose names must be different. -/
inductive DefinitionKind
  /-- Simple and complex types, which share their names. -/
  | type
  | group
deriving DecidableEq, Repr

/-- The constructs of a schema that the document may end in. -/
inductive SchemaConstruct
  | simpleType
  | complexType
  | modelGroup
  | element
deriving DecidableEq, Repr

inductive StructureFault
  | noSchema
  | nestedSchema
  | unterminated (construct : SchemaConstruct)
deriving DecidableEq, Repr

inductive SchemaFault
  | document (fault : DocumentFault)
  | attribute (fault : AttributeFault)
  | escape (fault : EscapeFault)
  /-- The tag lacks an attribute that it needs. -/
  | missingAttribute (element name : String)
  /-- The value of an attribute cannot be read. -/
  | invalidAttribute (element name value : String)
  | duplicate (kind : DefinitionKind) (name : String)
  | malformed (fault : StructureFault)
deriving DecidableEq, Repr

/-- The fault of a schema that the attributes of one of its tags are to blame for. -/
def SchemaFault.ofTag : TagFault → SchemaFault
  | .attribute fault => .attribute fault
  | .escape fault => .escape fault

def DefinitionKind.word : DefinitionKind → String
  | .type => "type"
  | .group => "group"

def SchemaConstruct.word : SchemaConstruct → String
  | .simpleType => "simpleType"
  | .complexType => "complexType"
  | .modelGroup => "model group"
  | .element => "element"

def StructureFault.message : StructureFault → String
  | .noSchema => "No schema element found"
  | .nestedSchema => "nested schema element"
  | .unterminated construct => s!"unterminated {construct.word}"

def SchemaFault.message : SchemaFault → String
  | .document fault => s!"XML parsing error: {fault.message}"
  | .attribute fault => s!"XML attribute error: {fault.message}"
  | .escape fault => s!"XML escape error: {fault.message}"
  | .missingAttribute element name =>
    s!"missing required attribute '{name}' on element '{element}'"
  | .invalidAttribute element name value =>
    s!"invalid value '{value}' for attribute '{name}' on element '{element}'"
  | .duplicate kind name => s!"duplicate {kind.word} definition: '{name}'"
  | .malformed fault => s!"invalid schema structure: {fault.message}"

/-- The wording of a schema fault and of the faults that it stems from, outermost first. -/
def SchemaFault.causes (fault : SchemaFault) : List String :=
  fault.message :: match fault with
    | .document inner => inner.causes
    | .attribute inner => [inner.message]
    | .escape inner => inner.causes
    | _ => []

end SchemaBinding
