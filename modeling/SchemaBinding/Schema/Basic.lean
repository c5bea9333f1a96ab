/-
**The components of an XML Schema.**

A schema holds named simple types with their enumeration facets, named complex types with their
content and attributes, named model groups and top-level elements. The content of a complex type is
a list of particles: each says how often it occurs and is an element, a reference to a group, a
compositor with particles of its own, or a wildcard. Components are found by name: a type is the
last one that was added under its name, a group the first one.
-/

namespace SchemaBinding

inductive MaxOccurs
  | bounded (count : UInt32)
  | unbounded
deriving DecidableEq, Repr, Inhabited

/-- How often a particle occurs. Without bounds of its own it occurs once. -/
structure Occurs where
  min : UInt32 := 1
  max : MaxOccurs := .bounded 1
deriving DecidableEq, Repr, Inhabited

namespace Occurs

def isOptional (occurs : Occurs) : Bool := occurs.min == 0

def isRepeated (occurs : Occurs) : Bool :=
  match occurs.max with
  | .bounded count => 1 < count
  | .unbounded => true

end Occurs

inductive Compositor
  | sequence
  | choice
  | all
deriving DecidableEq, Repr, Inhabited

/-- An element as it is declared: by name, or by reference to a top-level element. Type and value
constraints are kept as they are written. -/
structure ElementDecl where
  name : String
  typeName : Option String := none
  fixedValue : Option String := none
  defaultValue : Option String := none
  nillable : Bool := false
  isReference : Bool := false
deriving DecidableEq, Repr, Inhabited

/-- One part of the content of a complex type. -/
inductive Particle
  | element (occurs : Occurs) (decl : ElementDecl)
  | groupRef (occurs : Occurs) (name : String)
  | compositor (occurs : Occurs) (kind : Compositor) (particles : List Particle)
  | wildcard (occurs : Occurs)
deriving Repr, Inhabited

namespace Particle

def occurs : Particle → Occurs
  | element occurs _ => occurs
  | groupRef occurs _ => occurs
  | compositor occurs _ _ => occurs
  | wildcard occurs => occurs

/-- The declaration of a particle that is an element. -/
def element? : Particle → Option ElementDecl
  | element _ decl => some decl
  | _ => none

end Particle

/-- Whether an attribute has to be, may be or must not be present. -/
inductive AttributeUse
  | optional
  | required
  | prohibited
deriving DecidableEq, Repr, Inhabited

structure AttributeDecl where
  name : String
  typeName : Option String := none
  fixedValue : Option String := none
  defaultValue : Option String := none
  use : AttributeUse := .optional
deriving DecidableEq, Repr, Inhabited

/-- A simple type: a restriction of its base, to the enumerated values if there are any. -/
structure SimpleType where
  name : String
  base : String := "xs:string"
  enumerations : List String := []
deriving DecidableEq, Repr, Inhabited

def SimpleType.isEnumeration (type : SimpleType) : Bool := !type.enumerations.isEmpty

/-- A complex type: particles and attributes, and the base of its simple content if it has any. -/
structure ComplexType where
  name : String
  particles : List Particle := []
  attributes : List AttributeDecl := []
  simpleContent : Option String := none
deriving Repr, Inhabited

structure ModelGroup where
  name : String
  particles : List Particle := []
deriving Repr, Inhabited

/-- A top-level element, with the type that is declared inside it if there is one. -/
structure TopLevelElement where
  decl : ElementDecl
  anonymousType : Option ComplexType := none
deriving Repr, Inhabited

/-- A schema: its components of each kind, in the order in which they were added. -/
structure Schema where
  targetNamespace : Option String := none
  simpleTypes : List SimpleType := []
  complexTypes : List ComplexType := []
  groups : List ModelGroup := []
  elements : List TopLevelElement := []
deriving Repr, Inhabited

namespace Schema

def addSimpleType (schema : Schema) (type : SimpleType) : Schema :=
  { schema with simpleTypes := schema.simpleTypes ++ [type] }

def addComplexType (schema : Schema) (type : ComplexType) : Schema :=
  { schema with complexTypes := schema.complexTypes ++ [type] }

def addGroup (schema : Schema) (group : ModelGroup) : Schema :=
  { schema with groups := schema.groups ++ [group] }

def addElement (schema : Schema) (element : TopLevelElement) : Schema :=
  { schema with elements := schema.elements ++ [element] }

/-- The simple type that was added last under a name. -/
def simpleType? (schema : Schema) (name : String) : Option SimpleType :=
  schema.simpleTypes.reverse.find? (·.name == name)

/-- The complex type that was added last under a name. -/
def complexType? (schema : Schema) (name : String) : Option ComplexType :=
  schema.complexTypes.reverse.find? (·.name == name)

/-- The model group that was added first under a name. -/
def group? (schema : Schema) (name : String) : Option ModelGroup :=
  schema.groups.find? (·.name == name)

/-- The top-level element that was added first under a name. -/
def element? (schema : Schema) (name : String) : Option TopLevelElement :=
  schema.elements.find? (·.decl.name == name)

def hasType (schema : Schema) (name : String) : Bool :=
  schema.simpleTypes.any (·.name == name) || schema.complexTypes.any (·.name == name)

theorem simpleType?_addSimpleType (schema : Schema) (type : SimpleType) (name : String) :
    (schema.addSimpleType type).simpleType? name =
      if type.name = name then some type else schema.simpleType? name := by
  by_cases same : type.name = name <;> simp [simpleType?, addSimpleType, same]

theorem complexType?_addComplexType (schema : Schema) (type : ComplexType) (name : String) :
    (schema.addComplexType type).complexType? name =
      if type.name = name then some type else schema.complexType? name := by
  by_cases same : type.name = name <;> simp [complexType?, addComplexType, same]

theorem group?_addGroup (schema : Schema) (group : ModelGroup) (name : String) :
    (schema.addGroup group).group? name =
      (schema.group? name).or (if group.name = name then some group else none) := by
  by_cases same : group.name = name <;> simp [group?, addGroup, same, List.find?_append]

theorem hasType_eq (schema : Schema) (name : String) :
    schema.hasType name =
      ((schema.simpleType? name).isSome || (schema.complexType? name).isSome) := by
  rw [Bool.eq_iff_iff]
  simp [hasType, simpleType?, complexType?, List.find?_isSome]

end Schema

end SchemaBinding
