/-
**Declarations as their tags give them.**

What a tag says of an element, an attribute, a reference to a group or a wildcard is read from its
attributes. All attributes of a tag have to be in order before one of them is used; then they are
taken in the order of writing, later ones overruling earlier ones, and attributes without meaning
are passed over.
-/

import SchemaBinding.Naming.Derived
import SchemaBinding.Schema.Fault
import SchemaBinding.Schema.Lexical

namespace SchemaBinding

open Markup (Tag)

namespace SchemaTag

def attributes (tag : Tag) : Except SchemaFault (List (String × String)) :=
  tag.attributes.mapError SchemaFault.ofTag

def attribute? (tag : Tag) (name : String) : Except SchemaFault (Option String) :=
  (attributes tag).map fun list => list.lookup name

/-- The value of an attribute that a tag of the given local name needs. -/
def required (tag : Tag) (element name : String) : Except SchemaFault String := do
  match ← attribute? tag name with
  | some value => .ok value
  | none => .error (.missingAttribute element name)

/-- The value of an attribute as `read` understands it, or `absent` without the attribute. -/
def readOr {α : Type} (tag : Tag) (element name : String) (absent : α) (read : String → Option α) :
    Except SchemaFault α := do
  match ← attribute? tag name with
  | none => .ok absent
  | some value =>
    match read value with
    | some result => .ok result
    | none => .error (.invalidAttribute element name value)

def occurs (tag : Tag) (element : String) : Except SchemaFault Occurs := do
  let min ← readOr tag element "minOccurs" 1 readCount?
  let max ← readOr tag element "maxOccurs" (.bounded 1) MaxOccurs.read?
  return { min, max }

end SchemaTag

/-- Takes one attribute of an element into account. -/
def ElementDecl.withAttribute (decl : ElementDecl) :
    String × String → Except SchemaFault ElementDecl
  | ("name", value) => .ok { decl with name := value }
  | ("ref", value) => .ok { decl with name := localName value, isReference := true }
  | ("type", value) => .ok { decl with typeName := some value }
  | ("fixed", value) => .ok { decl with fixedValue := some value }
  | ("default", value) => .ok { decl with defaultValue := some value }
  | ("nillable", value) =>
    match readBoolean? value with
    | some nillable => .ok { decl with nillable }
    | none => .error (.invalidAttribute "element" "nillable" value)
  | _ => .ok decl

def ElementDecl.ofTag (tag : Tag) : Except SchemaFault ElementDecl := do
  let attributes ← SchemaTag.attributes tag
  let decl ← attributes.foldlM ElementDecl.withAttribute { name := "" }
  if decl.name.isEmpty then .error (.missingAttribute "element" "name") else .ok decl

def AttributeDecl.withAttribute (decl : AttributeDecl) :
    String × String → Except SchemaFault AttributeDecl
  | ("name", value) => .ok { decl with name := value }
  | ("ref", value) => .ok { decl with name := localName value }
  | ("type", value) => .ok { decl with typeName := some value }
  | ("fixed", value) => .ok { decl with fixedValue := some value }
  | ("default", value) => .ok { decl with defaultValue := some value }
  | ("use", value) =>
    match AttributeUse.read? value with
    | some use => .ok { decl with use }
    | none => .error (.invalidAttribute "attribute" "use" value)
  | _ => .ok decl

def AttributeDecl.ofTag (tag : Tag) : Except SchemaFault AttributeDecl := do
  let attributes ← SchemaTag.attributes tag
  let decl ← attributes.foldlM AttributeDecl.withAttribute { name := "" }
  if decl.name.isEmpty then .error (.missingAttribute "attribute" "name") else .ok decl

def Particle.groupRefOfTag (tag : Tag) : Except SchemaFault Particle := do
  let occurs ← SchemaTag.occurs tag "group"
  let name ← SchemaTag.required tag "group" "ref"
  return .groupRef occurs (localName name)

/-- The particle without particles of its own that a tag declares, if it declares one. -/
def Particle.leafOfTag? (tag : Tag) : Except SchemaFault (Option Particle) :=
  match tag.localName with
  | "element" => do
    let occurs ← SchemaTag.occurs tag "element"
    let decl ← ElementDecl.ofTag tag
    return some (.element occurs decl)
  | "group" => do return some (← Particle.groupRefOfTag tag)
  | "any" => do return some (.wildcard (← SchemaTag.occurs tag "any"))
  | _ => .ok none

end SchemaBinding
