/-
**Schemas written as documents.**

A schema is written component by component: simple types, complex types, groups and elements, each
kind in its order, all inside the tag of the schema. What has content of its own gets a start tag
and an end tag, and everything else is an empty element. Attributes that are absent are left out,
counts are written in decimal, enumerated values stand inside a restriction, and simple content is
an extension, which then holds the attributes of the type.

Not every schema can be told from its document. `Schema.Writable` says which can: names that are
looked up must differ, references must not look as if they had a prefix, and so on.
-/

import SchemaBinding.Proofs.Number.Decimal
import SchemaBinding.Schema.Reading

namespace SchemaBinding

open Markup (Event Tag)

/-- How the names of tags are written: behind a prefix and a colon, or by themselves. -/
structure TagStyle where
  before : Option String
  plain : ∀ text ∈ before, ':' ∉ text.toList

namespace TagStyle

variable (style : TagStyle)

def fullName (word : String) : String :=
  match style.before with
  | some text => text ++ ":" ++ word
  | none => word

/-- A tag of the given local name. -/
def tag (word : String) (attributes : List (String × String)) : Tag where
  name := style.fullName word
  attributes := .ok attributes

/-- Events between a start tag and its end tag. -/
def around (word : String) (attributes : List (String × String)) (inner : List Event) :
    List Event :=
  .start (style.tag word attributes) :: (inner ++ [.finish])

end TagStyle

/-! ### Attributes -/

/-- An attribute that may be absent. -/
def attributeIfAny (name : String) (value : Option String) : List (String × String) :=
  value.toList.map fun value => (name, value)

def Occurs.written (occurs : Occurs) : List (String × String) :=
  [("minOccurs", countText occurs.min), ("maxOccurs", occurs.max.text)]

def ElementDecl.written (decl : ElementDecl) : List (String × String) :=
  (if decl.isReference then "ref" else "name", decl.name) ::
    (attributeIfAny "type" decl.typeName ++ attributeIfAny "fixed" decl.fixedValue ++
      attributeIfAny "default" decl.defaultValue ++
      attributeIfAny "nillable" (if decl.nillable then some "true" else none))

def AttributeDecl.written (decl : AttributeDecl) : List (String × String) :=
  ("name", decl.name) ::
    (attributeIfAny "type" decl.typeName ++ attributeIfAny "fixed" decl.fixedValue ++
      attributeIfAny "default" decl.defaultValue ++ [("use", decl.use.word)])

/-! ### Components -/

mutual

/-- The events of a particle. -/
def Particle.written (style : TagStyle) : Particle → List Event
  | .element occurs decl => [.empty (style.tag "element" (occurs.written ++ decl.written))]
  | .groupRef occurs name => [.empty (style.tag "group" (occurs.written ++ [("ref", name)]))]
  | .wildcard occurs => [.empty (style.tag "any" occurs.written)]
  | .compositor occurs kind particles =>
    style.around kind.word occurs.written (Particle.writtenAll style particles)

def Particle.writtenAll (style : TagStyle) : List Particle → List Event
  | [] => []
  | particle :: rest => Particle.written style particle ++ Particle.writtenAll style rest

end

theorem Particle.writtenAll_eq (style : TagStyle) (particles : List Particle) :
    Particle.writtenAll style particles = particles.flatMap (Particle.written style) := by
  induction particles with
  | nil => rfl
  | cons particle rest ih => rw [Particle.writtenAll, ih, List.flatMap_cons]

section

variable (style : TagStyle)

def SimpleType.written (type : SimpleType) : List Event :=
  style.around "simpleType" [("name", type.name)]
    (style.around "restriction" [("base", type.base)]
      (type.enumerations.map fun value => .empty (style.tag "enumeration" [("value", value)])))

def ComplexType.writtenAttributes (type : ComplexType) : List Event :=
  type.attributes.map fun decl => .empty (style.tag "attribute" decl.written)

/-- What stands inside the tag of a complex type. -/
def ComplexType.writtenBody (type : ComplexType) : List Event :=
  Particle.writtenAll style type.particles ++
    match type.simpleContent with
    | none => type.writtenAttributes style
    | some base =>
      style.around "simpleContent" []
        (style.around "extension" [("base", base)] (type.writtenAttributes style))

def ComplexType.written (type : ComplexType) : List Event :=
  style.around "complexType" [("name", type.name)] (type.writtenBody style)

def ModelGroup.written (group : ModelGroup) : List Event :=
  style.around "group" [("name", group.name)] (Particle.writtenAll style group.particles)

/-- A top-level element; a type inside it has no name of its own. -/
def TopLevelElement.written (element : TopLevelElement) : List Event :=
  style.around "element" element.decl.written
    (match element.anonymousType with
      | none => []
      | some type => style.around "complexType" [] (type.writtenBody style))

/-- **The document of a schema.** -/
def Schema.written (schema : Schema) : List Event :=
  style.around "schema" (attributeIfAny "targetNamespace" schema.targetNamespace)
    (schema.simpleTypes.flatMap (SimpleType.written style) ++
      schema.complexTypes.flatMap (ComplexType.written style) ++
      schema.groups.flatMap (ModelGroup.written style) ++
      schema.elements.flatMap (TopLevelElement.written style))

end

/-! ### What can be written -/

/-- An element has a name; a reference is written without a prefix. -/
structure ElementDecl.Writable (decl : ElementDecl) : Prop where
  named : decl.name ≠ ""
  bare : decl.isReference = true → ':' ∉ decl.name.toList

mutual

def Particle.Writable : Particle → Prop
  | .element _ decl => decl.Writable
  | .groupRef _ name => ':' ∉ name.toList
  | .wildcard _ => True
  | .compositor _ _ particles => Particle.AllWritable particles

def Particle.AllWritable : List Particle → Prop
  | [] => True
  | particle :: rest => particle.Writable ∧ Particle.AllWritable rest

end

theorem Particle.Writable.of_mem {particles : List Particle} {particle : Particle}
    (writable : Particle.AllWritable particles) (member : particle ∈ particles) :
    particle.Writable := by
  induction particles with
  | nil => exact nomatch member
  | cons first rest ih =>
    rw [Particle.AllWritable] at writable
    rcases List.mem_cons.mp member with rfl | later
    · exact writable.1
    · exact ih writable.2 later

/-- Whether the particle may stand in a complex type without a compositor around it. -/
def Particle.standsFree : Particle → Bool
  | .compositor _ _ _ => true
  | .groupRef _ _ => true
  | _ => false

structure ComplexType.Writable (type : ComplexType) : Prop where
  particles : Particle.AllWritable type.particles
  free : ∀ particle ∈ type.particles, particle.standsFree = true
  attributes : ∀ decl ∈ type.attributes, decl.name ≠ ""

/-- A type inside an element is named after the element. -/
structure TopLevelElement.Writable (element : TopLevelElement) : Prop where
  decl : element.decl.Writable
  anonymous : ∀ type ∈ element.anonymousType, type.name = element.decl.name ∧ type.Writable

/-- **The schemas that are determined by their documents.** -/
structure Schema.Writable (schema : Schema) : Prop where
  types : (schema.simpleTypes.map (·.name) ++ schema.complexTypes.map (·.name)).Nodup
  groupNames : (schema.groups.map (·.name)).Nodup
  complexTypes : ∀ type ∈ schema.complexTypes, type.Writable
  groups : ∀ group ∈ schema.groups, Particle.AllWritable group.particles
  elements : ∀ element ∈ schema.elements, element.Writable

end SchemaBinding
