/-
**The model of a schema.**

Every simple type with enumerated values becomes an enumeration. Every complex type becomes a class,
and so does every type that is declared inside a top-level element, under the name of the element.
The fields of a class are the leaves of the content, then the attributes that are not prohibited,
then one field for simple content. A field whose name is taken gets an underscore and a number, the
first one from two on that is free.
-/

import SchemaBinding.Model.Content
import SchemaBinding.Model.Enumeration

namespace SchemaBinding

/-- The name `base`, or with the first number from two on that makes it free. -/
def freshName (taken : List String) (base : String) : String :=
  let numbered (number : Nat) : String := base ++ "_" ++ toString number
  if taken.contains base then numbered (firstFree numbered taken 2) else base

namespace Schema

/-- The field of a leaf. A reference to an element is replaced by what it refers to, but keeps its
own occurrences. -/
def fieldOfLeaf (schema : Schema) (leaf : Leaf) : Field :=
  match leaf.particle with
  | .element occurs decl =>
    let decl := schema.resolveElement decl
    { Field.ofSchemaName decl.name (schema.elementType decl) (.particle (.element occurs decl)) with
      optional := leaf.path.optional || decl.nillable
      repeated := leaf.path.repeated }
  | .groupRef occurs name =>
    { Field.ofSchemaName name (.unknown name) (.particle (.groupRef occurs name)) with
      optional := leaf.path.optional
      repeated := leaf.path.repeated }
  | other =>
    { Field.ofSchemaName "any" .anyType (.particle other) with
      optional := leaf.path.optional
      repeated := leaf.path.repeated }

def fieldOfAttribute (schema : Schema) (decl : AttributeDecl) : Field :=
  { Field.ofSchemaName decl.name (schema.resolveType decl.typeName) (.attribute decl) with
    optional := decl.use != .required }

/-- The fields of a complex type, under the names that they have by themselves. -/
def fieldsOf (schema : Schema) (type : ComplexType) : List Field :=
  (schema.leaves type.particles).map schema.fieldOfLeaf ++
    (type.attributes.filter (·.use != .prohibited)).map schema.fieldOfAttribute ++
      type.simpleContent.toList.map fun base =>
        Field.ofSchemaName "value" (schema.resolveType (some base)) .synthetic

end Schema

/-- Adds a field under its name, or under a numbered name if that is taken. -/
def DataClass.addField (c : DataClass) (field : Field) : DataClass :=
  { c with fields := c.fields ++ [{ field with name := freshName c.memberNames field.name }] }

def Schema.classOf (schema : Schema) (schemaName : String) (type : ComplexType) : DataClass :=
  (schema.fieldsOf type).foldl DataClass.addField (.ofSchemaName schemaName)

/-- The class of the type inside a top-level element, if there is one. -/
def Schema.classOfElement? (schema : Schema) (element : TopLevelElement) : Option DataClass :=
  element.anonymousType.map (schema.classOf element.decl.name)

def Model.ofSchema (schema : Schema) : Model where
  package := packageName schema.targetNamespace
  classes :=
    schema.complexTypes.map (fun type => schema.classOf type.name type) ++
      schema.elements.filterMap schema.classOfElement?
  enums :=
    (schema.simpleTypes.filter (·.isEnumeration)).map fun type =>
      Enumeration.ofLexicals type.name type.enumerations

end SchemaBinding
