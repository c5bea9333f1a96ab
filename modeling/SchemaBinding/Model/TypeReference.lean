/-
**The type that a reference leads to.**

A reference is followed by its local name. A simple type with enumerated values is an enumeration,
and a complex type is a class. Any other simple type leads on to its base, at most sixteen times. A
name that is no type of the schema is a built-in type or, failing that, foreign.
-/

import SchemaBinding.Model.Basic

namespace SchemaBinding

/-- The number of references that are followed one after another. -/
def maxResolveDepth : Nat := 16

/-- A type that is known by its name only. -/
def FieldType.unknown (name : String) : FieldType := .foreign name (pascalCase name)

namespace Schema

/-- The type that a local name leads to in so many steps. -/
def resolveName (schema : Schema) : (steps : Nat) → (name : String) → FieldType
  | 0, name => .unknown name
  | steps + 1, name =>
    match schema.simpleType? name with
    | some simple =>
      if simple.isEnumeration then .enumeration (pascalCase simple.name)
      else schema.resolveName steps (localName simple.base)
    | none =>
      if (schema.complexType? name).isSome then .dataClass (pascalCase name)
      else
        match BuiltinType.ofName? name with
        | some builtin => .ofBuiltin builtin name
        | none => .unknown name

/-- The type of a reference, or of a declaration that refers to no type. -/
def resolveType (schema : Schema) : Option String → FieldType
  | none => .anyType
  | some reference => schema.resolveName maxResolveDepth (localName reference)

/-- The declaration that stands for an element: for a reference the first top-level element of its
name, if there is one, and else the element itself. -/
def resolveElement (schema : Schema) (decl : ElementDecl) : ElementDecl :=
  if decl.isReference then
    match schema.element? decl.name with
    | some element => element.decl
    | none => decl
  else decl

/-- Whether a top-level element of the name declares its type inside itself. -/
def hasAnonymousType (schema : Schema) (name : String) : Bool :=
  schema.elements.any fun element => element.decl.name == name && element.anonymousType.isSome

/-- The type of an element. Without a type of its own, an element has the class of the type that is
declared inside a top-level element of its name. -/
def elementType (schema : Schema) (decl : ElementDecl) : FieldType :=
  if decl.typeName.isNone && schema.hasAnonymousType decl.name then
    .dataClass (pascalCase decl.name)
  else schema.resolveType decl.typeName

end Schema

end SchemaBinding
