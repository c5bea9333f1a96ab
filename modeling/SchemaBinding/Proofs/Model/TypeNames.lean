/-
**Generated types that fields refer to.**

The type of a field is found by following references through the schema, and the classes and
enumerations of a model are made from the components of the schema. Both name what is generated
after the component that it stands for, so a reference that ends at a component leads to a type of
the model (`FieldType.DefinedIn`), however long it is, and whether or not names are used twice. A
reference that ends nowhere leads to no generated type.

`no_dangling_types`: every field of a model that has a generated type has one of the model.
-/

import SchemaBinding.Proofs.Model.ClassFields

namespace SchemaBinding

/-- **A type does not dangle in a model**: if it is a generated one, it is there. -/
def FieldType.DefinedIn (model : Model) : FieldType → Prop
  | .dataClass name => ∃ c ∈ model.classes, c.name = name
  | .enumeration name => ∃ enumeration ∈ model.enums, enumeration.name = name
  | _ => True

section

variable (schema : Schema)

/-! ### The components that types are generated for -/

theorem definedIn_of_simpleType {simple : SimpleType} (member : simple ∈ schema.simpleTypes)
    (values : simple.isEnumeration = true) :
    (FieldType.enumeration (pascalCase simple.name)).DefinedIn (Model.ofSchema schema) := by
  refine ⟨.ofLexicals simple.name simple.enumerations, ?_, rfl⟩
  exact List.mem_map.mpr ⟨simple, List.mem_filter.mpr ⟨member, values⟩, rfl⟩

theorem definedIn_of_classType {name : String} {type : ComplexType}
    (member : (name, type) ∈ schema.classTypes) :
    (FieldType.dataClass (pascalCase name)).DefinedIn (Model.ofSchema schema) := by
  refine ⟨schema.classOf name type, ?_, classOf_name schema name type⟩
  rw [classes_ofSchema]
  exact List.mem_map.mpr ⟨(name, type), member, rfl⟩

theorem definedIn_of_complexType? {name : String}
    (found : (schema.complexType? name).isSome = true) :
    (FieldType.dataClass (pascalCase name)).DefinedIn (Model.ofSchema schema) := by
  obtain ⟨type, found⟩ := Option.isSome_iff_exists.mp found
  have member : type ∈ schema.complexTypes := List.mem_reverse.mp (List.mem_of_find?_eq_some found)
  have same : type.name = name := by simpa using List.find?_some found
  have named : (name, type) ∈ schema.classTypes := by
    refine List.mem_append_left _ (List.mem_map.mpr ⟨type, member, ?_⟩)
    rw [same]
  exact definedIn_of_classType schema named

theorem definedIn_of_hasAnonymousType {name : String}
    (found : schema.hasAnonymousType name = true) :
    (FieldType.dataClass (pascalCase name)).DefinedIn (Model.ofSchema schema) := by
  obtain ⟨element, member, inside⟩ := List.any_eq_true.mp found
  obtain ⟨same, inside⟩ := Bool.and_eq_true_iff.mp inside
  obtain ⟨type, anonymous⟩ := Option.isSome_iff_exists.mp inside
  have named : (name, type) ∈ schema.classTypes := by
    refine List.mem_append_right _ (List.mem_filterMap.mpr ⟨element, member, ?_⟩)
    rw [anonymous, ← beq_iff_eq.mp same]
    rfl
  exact definedIn_of_classType schema named

/-! ### The types that references lead to -/

theorem ofBuiltin_definedIn (model : Model) (builtin : BuiltinType) (name : String) :
    (FieldType.ofBuiltin builtin name).DefinedIn model := by
  cases builtin <;> exact trivial

/-- A reference ends at a component of the schema or at no generated type; the steps that it takes
are gone through by induction. -/
theorem resolveName_definedIn (steps : Nat) (name : String) :
    (schema.resolveName steps name).DefinedIn (Model.ofSchema schema) := by
  induction steps generalizing name with
  | zero => exact trivial
  | succ steps ih =>
    rw [Schema.resolveName]
    cases simple : schema.simpleType? name with
    | some type =>
      have member : type ∈ schema.simpleTypes :=
        List.mem_reverse.mp (List.mem_of_find?_eq_some simple)
      by_cases values : type.isEnumeration = true
      · simp only [if_pos values]
        exact definedIn_of_simpleType schema member values
      · simp only [if_neg values]
        exact ih (localName type.base)
    | none =>
      by_cases complex : (schema.complexType? name).isSome = true
      · simp only [if_pos complex]
        exact definedIn_of_complexType? schema complex
      · simp only [if_neg complex]
        cases BuiltinType.ofName? name with
        | some builtin => exact ofBuiltin_definedIn _ builtin name
        | none => exact trivial

theorem resolveType_definedIn (reference : Option String) :
    (schema.resolveType reference).DefinedIn (Model.ofSchema schema) := by
  cases reference with
  | none => exact trivial
  | some reference => exact resolveName_definedIn schema maxResolveDepth (localName reference)

theorem elementType_definedIn (decl : ElementDecl) :
    (schema.elementType decl).DefinedIn (Model.ofSchema schema) := by
  unfold Schema.elementType
  by_cases anonymous : (decl.typeName.isNone && schema.hasAnonymousType decl.name) = true
  · rw [if_pos anonymous]
    exact definedIn_of_hasAnonymousType schema (Bool.and_eq_true_iff.mp anonymous).2
  · rw [if_neg anonymous]
    exact resolveType_definedIn schema decl.typeName

/-! ### The types of fields -/

theorem fieldOfLeaf_definedIn (leaf : Leaf) :
    (schema.fieldOfLeaf leaf).type.DefinedIn (Model.ofSchema schema) := by
  unfold Schema.fieldOfLeaf
  cases leaf.particle with
  | element occurs decl => exact elementType_definedIn schema (schema.resolveElement decl)
  | groupRef | compositor | wildcard => exact trivial

theorem fieldsOf_definedIn (type : ComplexType) :
    ∀ field ∈ schema.fieldsOf type, field.type.DefinedIn (Model.ofSchema schema) := by
  intro field member
  simp only [Schema.fieldsOf, List.mem_append, List.mem_map] at member
  rcases member with (⟨leaf, -, rfl⟩ | ⟨decl, -, rfl⟩) | ⟨base, -, rfl⟩
  · exact fieldOfLeaf_definedIn schema leaf
  · exact resolveType_definedIn schema decl.typeName
  · exact resolveType_definedIn schema (some base)

/-- **No field refers to a type that is not generated.** In the model of any schema, a field whose
type is a class has a class of the model, and one whose type is an enumeration has an enumeration of
the model. -/
theorem no_dangling_types {c : DataClass} (class_mem : c ∈ (Model.ofSchema schema).classes)
    {field : Field} (member : field ∈ c.fields) (name : String) :
    (field.type = .dataClass name → ∃ d ∈ (Model.ofSchema schema).classes, d.name = name) ∧
      (field.type = .enumeration name →
        ∃ enumeration ∈ (Model.ofSchema schema).enums, enumeration.name = name) := by
  rw [classes_ofSchema] at class_mem
  obtain ⟨⟨schemaName, type⟩, -, rfl⟩ := List.mem_map.mp class_mem
  obtain ⟨base, inside, same⟩ := exists_of_mem_classOf member
  have defined := fieldsOf_definedIn schema type base inside
  rw [base.type_of_unnamed same] at defined
  constructor
  · intro generated
    rw [generated] at defined
    exact defined
  · intro generated
    rw [generated] at defined
    exact defined

end

/-- A shirt has a size, through a type that only restricts another one, and a label, whose type is
declared inside a top-level element. -/
def shirtSchema : Schema where
  simpleTypes := [
    { name := "size", enumerations := ["S", "M", "L"] },
    { name := "shirt-size", base := "size" }]
  complexTypes := [{
    name := "shirt"
    particles := [.element {} { name := "label", isReference := true }]
    attributes := [{ name := "size", typeName := some "shirt-size" }] }]
  elements := [{ decl := { name := "label" }, anonymousType := some { name := "label" } }]

/-- The label has a class and the size an enumeration, and both are generated. -/
theorem no_dangling_types_shirtSchema :
    ∃ c ∈ (Model.ofSchema shirtSchema).classes, ∃ label ∈ c.fields, ∃ size ∈ c.fields,
      label.type = .dataClass "Label" ∧ size.type = .enumeration "Size" ∧
        (∃ d ∈ (Model.ofSchema shirtSchema).classes, d.name = "Label") ∧
        ∃ enumeration ∈ (Model.ofSchema shirtSchema).enums, enumeration.name = "Size" := by
  have types : ((Model.ofSchema shirtSchema).classes[0]?.map fun c => c.fields.map Field.type) =
      some [.dataClass "Label", .enumeration "Size"] := by decide +kernel
  obtain ⟨c, found, types⟩ := Option.map_eq_some_iff.mp types
  have labelled : FieldType.dataClass "Label" ∈ c.fields.map Field.type := by
    rw [types]
    exact List.mem_cons_self
  have sized : FieldType.enumeration "Size" ∈ c.fields.map Field.type := by
    rw [types]
    exact List.mem_cons_of_mem _ List.mem_cons_self
  obtain ⟨label, label_mem, labelType⟩ := List.mem_map.mp labelled
  obtain ⟨size, size_mem, sizeType⟩ := List.mem_map.mp sized
  have member := List.mem_of_getElem? found
  refine ⟨c, member, label, label_mem, size, size_mem, labelType, sizeType, ?_, ?_⟩
  · exact (no_dangling_types shirtSchema member label_mem "Label").1 labelType
  · exact (no_dangling_types shirtSchema member size_mem "Size").2 sizeType

end SchemaBinding
