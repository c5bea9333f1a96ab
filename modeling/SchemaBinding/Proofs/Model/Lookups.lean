/-
**What fields depend on in a schema.**

Fields are made through look-ups: types and groups are found by name, and so are the top-level
elements that references and elements without a type ask for. Two schemas that find the same types
and groups (`Schema.FindsAs`) have the same leaves, and a reference to a type leads to the same
field type in both. What the top-level elements have to say concerns one element at a time, by its
name (`elementType_eq`). Two schemas that answer all look-ups alike, those of elements included
(`Schema.AnswersAs`), have the same class for every complex type.
-/

import SchemaBinding.Proofs.Model.Correspondence

namespace SchemaBinding

/-- **Two schemas find the same types and groups**, whatever elements they have. -/
structure Schema.FindsAs (schema other : Schema) : Prop where
  simpleType : ∀ name, schema.simpleType? name = other.simpleType? name
  complexType : ∀ name, schema.complexType? name = other.complexType? name
  group : ∀ name, schema.group? name = other.group? name

section

variable {schema other : Schema} (alike : schema.FindsAs other)

include alike

theorem resolveName_eq (steps : Nat) (name : String) :
    schema.resolveName steps name = other.resolveName steps name := by
  induction steps generalizing name with
  | zero => rfl
  | succ steps ih =>
    rw [Schema.resolveName, Schema.resolveName, alike.simpleType, alike.complexType]
    simp only [ih]

theorem resolveType_eq (reference : Option String) :
    schema.resolveType reference = other.resolveType reference := by
  cases reference with
  | none => rfl
  | some reference => exact resolveName_eq alike maxResolveDepth (localName reference)

theorem elementType_eq {decl : ElementDecl}
    (anonymous : schema.hasAnonymousType decl.name = other.hasAnonymousType decl.name) :
    schema.elementType decl = other.elementType decl := by
  unfold Schema.elementType
  rw [anonymous, resolveType_eq alike]

theorem expandGroup_eq (budget : Nat) : schema.expandGroup budget = other.expandGroup budget := by
  induction budget with
  | zero => rfl
  | succ budget ih =>
    funext name
    simp only [Schema.expandGroup, alike.group, ih]

theorem leaves_eq (particles : List Particle) :
    schema.leaves particles = other.leaves particles := by
  unfold Schema.leaves
  rw [expandGroup_eq alike]

theorem groupPaths_eq (budget : Nat) : schema.groupPaths budget = other.groupPaths budget := by
  induction budget with
  | zero => rfl
  | succ budget ih =>
    funext name
    simp only [Schema.groupPaths, alike.group, ih]

theorem fieldSources_eq (type : ComplexType) :
    schema.fieldSources type = other.fieldSources type := by
  unfold Schema.fieldSources Schema.leafPaths
  rw [groupPaths_eq alike]

end

/-- **Two schemas answer all look-ups alike**, those of top-level elements included. -/
structure Schema.AnswersAs (schema other : Schema) : Prop extends schema.FindsAs other where
  element : ∀ name, schema.element? name = other.element? name
  anonymousType : ∀ name, schema.hasAnonymousType name = other.hasAnonymousType name

section

variable {schema other : Schema} (alike : schema.AnswersAs other)

include alike

theorem resolveElement_eq (decl : ElementDecl) :
    schema.resolveElement decl = other.resolveElement decl := by
  unfold Schema.resolveElement
  rw [alike.element]

theorem fieldOfLeaf_eq (leaf : Leaf) : schema.fieldOfLeaf leaf = other.fieldOfLeaf leaf := by
  have types (decl : ElementDecl) : schema.elementType decl = other.elementType decl :=
    elementType_eq alike.toFindsAs (alike.anonymousType decl.name)
  unfold Schema.fieldOfLeaf
  simp only [resolveElement_eq alike, types]

theorem fieldOfAttribute_eq (decl : AttributeDecl) :
    schema.fieldOfAttribute decl = other.fieldOfAttribute decl := by
  unfold Schema.fieldOfAttribute
  rw [resolveType_eq alike.toFindsAs]

theorem fieldsOf_eq (type : ComplexType) : schema.fieldsOf type = other.fieldsOf type := by
  have ofLeaf : schema.fieldOfLeaf = other.fieldOfLeaf := funext (fieldOfLeaf_eq alike)
  have ofAttribute : schema.fieldOfAttribute = other.fieldOfAttribute :=
    funext (fieldOfAttribute_eq alike)
  unfold Schema.fieldsOf
  simp only [leaves_eq alike.toFindsAs, ofLeaf, ofAttribute, resolveType_eq alike.toFindsAs]

/-- **The class of a complex type depends on what the schema answers**, and on nothing else. -/
theorem classOf_eq_of_answersAs (name : String) (type : ComplexType) :
    schema.classOf name type = other.classOf name type := by
  unfold Schema.classOf
  rw [fieldsOf_eq alike]

end

end SchemaBinding
