/-
**Which fields the classes of a model have.**

The classes of a model are those of the complex types of its schema, named or inside a top-level
element (`Schema.classTypes`). Adding fields one after another changes nothing but their names, so a
class has the fields of its type in their order, up to names (`classOf_fields`).
-/

import SchemaBinding.Model.OfSchema

namespace SchemaBinding

/-- A field without its name. -/
def Field.unnamed (field : Field) : Field := { field with name := "" }

section

variable (field : Field) {other : Field} (same : field.unnamed = other.unnamed)

include same

theorem Field.schemaName_of_unnamed : field.schemaName = other.schemaName := by
  have names := congrArg Field.schemaName same
  exact names

theorem Field.type_of_unnamed : field.type = other.type := by
  have types := congrArg Field.type same
  exact types

theorem Field.origin_of_unnamed : field.origin = other.origin := by
  have origins := congrArg Field.origin same
  exact origins

theorem Field.optional_of_unnamed : field.optional = other.optional := by
  have flags := congrArg Field.optional same
  exact flags

theorem Field.repeated_of_unnamed : field.repeated = other.repeated := by
  have flags := congrArg Field.repeated same
  exact flags

end

theorem fields_foldl_addField (c : DataClass) (fields : List Field) :
    (fields.foldl DataClass.addField c).fields.map Field.unnamed =
      c.fields.map Field.unnamed ++ fields.map Field.unnamed := by
  induction fields generalizing c with
  | nil => simp
  | cons field rest ih =>
    rw [List.foldl_cons, ih]
    simp [DataClass.addField, Field.unnamed]

/-- **A class has the fields of its type**, up to their names. -/
theorem classOf_fields (schema : Schema) (name : String) (type : ComplexType) :
    (schema.classOf name type).fields.map Field.unnamed =
      (schema.fieldsOf type).map Field.unnamed :=
  fields_foldl_addField (.ofSchemaName name) (schema.fieldsOf type)

theorem foldl_addField_frame (c : DataClass) (fields : List Field) :
    (fields.foldl DataClass.addField c).name = c.name ∧
      (fields.foldl DataClass.addField c).schemaName = c.schemaName := by
  induction fields generalizing c with
  | nil => exact ⟨rfl, rfl⟩
  | cons field rest ih => exact ih (c.addField field)

/-- A class is named after its type. -/
theorem classOf_name (schema : Schema) (name : String) (type : ComplexType) :
    (schema.classOf name type).name = pascalCase name :=
  (foldl_addField_frame (.ofSchemaName name) (schema.fieldsOf type)).1

theorem classOf_schemaName (schema : Schema) (name : String) (type : ComplexType) :
    (schema.classOf name type).schemaName = name :=
  (foldl_addField_frame (.ofSchemaName name) (schema.fieldsOf type)).2

theorem exists_of_mem_classOf {schema : Schema} {name : String} {type : ComplexType} {field : Field}
    (member : field ∈ (schema.classOf name type).fields) :
    ∃ base ∈ schema.fieldsOf type, base.unnamed = field.unnamed := by
  have image : field.unnamed ∈ (schema.fieldsOf type).map Field.unnamed := by
    rw [← classOf_fields schema name type]
    exact List.mem_map_of_mem member
  exact List.mem_map.mp image

/-- The complex types that become classes, with the names that these are derived from. -/
def Schema.classTypes (schema : Schema) : List (String × ComplexType) :=
  schema.complexTypes.map (fun type => (type.name, type)) ++
    schema.elements.filterMap fun element =>
      element.anonymousType.map fun type => (element.decl.name, type)

/-- **The classes of a model are those of its complex types**, in order. -/
theorem classes_ofSchema (schema : Schema) :
    (Model.ofSchema schema).classes =
      schema.classTypes.map fun entry => schema.classOf entry.1 entry.2 := by
  have anonymous : schema.classOfElement? = fun element =>
      (element.anonymousType.map fun type => (element.decl.name, type)).map fun entry =>
        schema.classOf entry.1 entry.2 := by
    funext element
    rw [Option.map_map]
    rfl
  rw [Schema.classTypes, List.map_append, List.map_map, List.map_filterMap, ← anonymous]
  rfl

theorem foldl_addField_eq (c : DataClass) (fields : List Field) :
    fields.foldl DataClass.addField c =
      { c with fields := (fields.foldl DataClass.addField c).fields } := by
  induction fields generalizing c with
  | nil => rfl
  | cons field rest ih => exact ih (c.addField field)

/-- A class is its fields under its name, without static members. -/
theorem classOf_eq (schema : Schema) (name : String) (type : ComplexType) :
    schema.classOf name type =
      { DataClass.ofSchemaName name with fields := (schema.classOf name type).fields } :=
  foldl_addField_eq (.ofSchemaName name) (schema.fieldsOf type)

/-- No field of a class has an initializer of its own. -/
theorem initializer_of_mem_classOf {schema : Schema} {name : String} {type : ComplexType}
    {field : Field} (member : field ∈ (schema.classOf name type).fields) :
    field.initializer = none := by
  obtain ⟨base, mem, same⟩ := exists_of_mem_classOf member
  have none : base.initializer = none := by
    simp only [Schema.fieldsOf, List.mem_append, List.mem_map] at mem
    rcases mem with (⟨leaf, -, rfl⟩ | ⟨decl, -, rfl⟩) | ⟨simple, -, rfl⟩
    · unfold Schema.fieldOfLeaf
      split <;> rfl
    · rfl
    · rfl
  exact (congrArg Field.initializer same).symm.trans none

theorem statics_of_mem_ofSchema {schema : Schema} {c : DataClass}
    (class_mem : c ∈ (Model.ofSchema schema).classes) : c.statics = [] := by
  rw [classes_ofSchema] at class_mem
  obtain ⟨entry, -, rfl⟩ := List.mem_map.mp class_mem
  rw [classOf_eq]
  rfl

theorem initializer_of_mem_ofSchema {schema : Schema} {c : DataClass}
    (class_mem : c ∈ (Model.ofSchema schema).classes) {field : Field} (member : field ∈ c.fields) :
    field.initializer = none := by
  rw [classes_ofSchema] at class_mem
  obtain ⟨entry, -, rfl⟩ := List.mem_map.mp class_mem
  exact initializer_of_mem_classOf member

end SchemaBinding
