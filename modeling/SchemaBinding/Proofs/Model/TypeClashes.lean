/-
**When the names of generated types clash.**

The types of a module are named after components of the schema: enumerations after simple types,
classes after complex types and after elements with a type inside them (`Schema.typeComponents`).
The reader keeps the names of types different as they are written, but the types that are generated
have names in Pascal case, and these are not compared with each other, nor with the names that
the fields of structures are written with.

So two generated types have the same name if and only if the names of their components are spelled
alike, and code is generated for them all the same (`type_names_clash_iff`, `type_names_clash`).
-/

import SchemaBinding.Proofs.Document.DistinctNames
import SchemaBinding.Proofs.Model.ClassFields
import SchemaBinding.Proofs.Naming.PascalCase
import SchemaBinding.Proofs.Source.Rendering

namespace SchemaBinding

/-- The names of the types that a model generates, enumerations first. -/
def Model.typeNames (model : Model) : List String :=
  model.enums.map (·.name) ++ model.classes.map (·.name)

/-- **The names of the components that types are generated for**, in the order of the types. -/
def Schema.typeComponents (schema : Schema) : List String :=
  (schema.simpleTypes.filter (·.isEnumeration)).map (·.name) ++ schema.classTypes.map Prod.fst

/-- The names of types that fields are written with, whatever types are generated. -/
def writtenTypes : List String := ["String", "Option", "Vec"]

section

variable (schema : Schema)

/-- **Generated types are named after components**, in Pascal case. -/
theorem typeNames_ofSchema :
    (Model.ofSchema schema).typeNames = schema.typeComponents.map pascalCase := by
  have classes : (Model.ofSchema schema).classes.map (·.name) =
      (schema.classTypes.map Prod.fst).map pascalCase := by
    rw [classes_ofSchema, List.map_map, List.map_map]
    refine List.map_congr_left fun entry _ => ?_
    exact classOf_name schema entry.1 entry.2
  unfold Model.typeNames Schema.typeComponents
  rw [List.map_append, classes]
  refine congrArg (· ++ _) ?_
  show List.map _ (List.map _ _) = _
  rw [List.map_map, List.map_map]
  rfl

theorem nodup_map_pascalCase_iff (names : List String) :
    (names.map pascalCase).Nodup ↔ names.Pairwise fun first second => ¬ SpelledAlike first second := by
  unfold List.Nodup
  rw [List.pairwise_map]
  simp only [ne_eq, pascalCase_eq_iff]

/-- A name in Pascal case is generated for the names that are spelled alike. -/
theorem notMem_map_pascalCase_iff {name : String} (proper : pascalCase name = name)
    (names : List String) :
    name ∉ names.map pascalCase ↔ ∀ component ∈ names, ¬ SpelledAlike component name := by
  constructor
  · intro missing component member alike
    refine missing (List.mem_map.mpr ⟨component, member, ?_⟩)
    rw [pascalCase_eq_iff.mpr alike, proper]
  · intro apart member
    obtain ⟨component, inside, same⟩ := List.mem_map.mp member
    refine apart component inside (pascalCase_eq_iff.mp ?_)
    rw [same, proper]

theorem pascalCase_of_mem_writtenTypes {name : String} (member : name ∈ writtenTypes) :
    pascalCase name = name := by
  have proper : ∀ name ∈ writtenTypes, pascalCase name = name := by decide +kernel
  exact proper name member

end

/-- **When the names of generated types clash.** In a schema that is read from a text, the names of
types are different, and so are those of groups. The types that are generated have the names of
their components in Pascal case. They differ from each other and from the types that fields are
written with if and only if no two of their components are spelled alike, and none is spelled like
one of these types. Code is generated in either case, if the names are identifiers. -/
theorem type_names_clash_iff {text : String} {schema : Schema}
    (accepted : Schema.ofText text = .ok schema) :
    let model := Model.ofSchema schema
    schema.NamesDistinct ∧
      model.typeNames = schema.typeComponents.map pascalCase ∧
      (model.typeNames.Nodup ↔
        schema.typeComponents.Pairwise fun first second => ¬ SpelledAlike first second) ∧
      (∀ name ∈ writtenTypes, name ∉ model.typeNames ↔
        ∀ component ∈ schema.typeComponents, ¬ SpelledAlike component name) ∧
      (Settings.generate {} text).code =
        checkAll model.declaredNames (Lines.text model.lines) := by
  intro model
  have names : model.typeNames = schema.typeComponents.map pascalCase := typeNames_ofSchema schema
  refine ⟨namesDistinct_of_ofText accepted, names, ?_, ?_, generate_of_schema accepted⟩
  · rw [names]
    exact nodup_map_pascalCase_iff schema.typeComponents
  · intro name member
    rw [names]
    exact notMem_map_pascalCase_iff (pascalCase_of_mem_writtenTypes member) schema.typeComponents

/-- Cups and saucers, and an element for cups with a type inside it. -/
def cupText : String :=
  "<schema><complexType name='saucer'/><element name='cup'><complexType/></element></schema>"

/-- A cup and a saucer are generated, and their names do not clash. -/
theorem type_names_clash_iff_cupText :
    ∃ schema, Schema.ofText cupText = .ok schema ∧ schema.NamesDistinct ∧
      schema.typeComponents = ["saucer", "cup"] ∧
      (Model.ofSchema schema).typeNames = ["Saucer", "Cup"] ∧
      ¬ SpelledAlike "saucer" "cup" ∧ ¬ SpelledAlike "cup" "Vec" := by
  have read : (Schema.ofText cupText).toOption.map Schema.typeComponents =
      some ["saucer", "cup"] := by decide +kernel
  obtain ⟨schema, kept, components⟩ := Option.map_eq_some_iff.mp read
  have accepted := ok_of_toOption kept
  obtain ⟨distinct, names, apart, written, -⟩ := type_names_clash_iff accepted
  have cased : (Model.ofSchema schema).typeNames = ["Saucer", "Cup"] := by
    rw [names, components]
    decide +kernel
  rw [cased] at apart written
  rw [components] at apart written
  refine ⟨schema, accepted, distinct, components, cased, ?_, ?_⟩
  · exact (List.pairwise_cons.mp (apart.mp (by decide))).1 "cup" List.mem_cons_self
  · exact (written "Vec" (by decide)).mp (by decide) "cup" (by decide)

/-- **Generated types clash.** Two complex types whose names differ in a separator only are generated
under one name, and one that is named like a built-in type is generated under the name that fields
with strings are written with. -/
theorem type_names_clash :
    let alike := "<schema><complexType name=\"a-b\"/><complexType name=\"a_b\"/></schema>"
    let shadowing := "<schema><complexType name=\"string\"/></schema>"
    let typeNames (text : String) := (Schema.ofText text).toOption.map fun schema =>
      (Model.ofSchema schema).typeNames
    let generates (text : String) := (Settings.generate {} text).code.isOk
    typeNames alike = some ["AB", "AB"] ∧ generates alike = true ∧
      typeNames shadowing = some ["String"] ∧ generates shadowing = true := by
  intro alike shadowing typeNames generates
  exact ⟨by decide +kernel, by decide +kernel, by decide +kernel, by decide +kernel⟩

end SchemaBinding
