/-
**Why a schema that is read may still yield no code.**

Code is refused if a name that it declares is no identifier. The names of the module and of all
constants always are identifiers, and that of a field is one unless its component has no ASCII
letter or digit in its name. So what remains is the name of an enumeration or class, which keeps all
characters but separators, and a field whose component has such a name
(`exists_invalid_declared_iff`).

Such a field has an empty name, unless a field of the class before it has that name already. Then it
gets an underscore and a number, which would do, but the field before it stands in the way
(`empty_mem_fieldNames`).
-/

import SchemaBinding.Proofs.Fallible
import SchemaBinding.Proofs.Model.FieldNames
import SchemaBinding.Proofs.Naming.ConstantNames
import SchemaBinding.Proofs.Source.Rendering

namespace SchemaBinding

/-! ### Names of fields -/

section

variable {schema : Schema} {c : DataClass} {field : Field}

/-- The name of a field is an identifier if that of its component has an ASCII letter or digit, also
if it has been given a number. -/
theorem isIdentifier_of_field (here : c ∈ (Model.ofSchema schema).classes)
    (member : field ∈ c.fields) (named : ¬ Nameless field.schemaName) :
    isIdentifier field.name = true := by
  obtain ⟨index, at_index⟩ := List.getElem?_of_mem member
  rw [name_of_field_at here at_index]
  exact isIdentifier_freshName (isIdentifier_fieldName_iff.mpr named) _

/-- A class with a field for a nameless component has a field with an empty name. -/
theorem empty_mem_fieldNames (here : c ∈ (Model.ofSchema schema).classes)
    (member : field ∈ c.fields) (nameless : Nameless field.schemaName) :
    "" ∈ c.fields.map (·.name) := by
  obtain ⟨index, at_index⟩ := List.getElem?_of_mem member
  have named := name_of_field_at here at_index
  rw [fieldName_eq_empty nameless] at named
  -- If the empty name is taken, this field has another one, but then a field before it has it.
  by_cases earlier : "" ∈ (c.fields.map (·.name)).take index
  · exact List.mem_of_mem_take earlier
  · rw [freshName_of_notMem earlier] at named
    exact List.mem_map.mpr ⟨field, member, named⟩

/-! ### Names that are declared -/

theorem name_of_mem_enums {enumeration : Enumeration}
    (here : enumeration ∈ (Model.ofSchema schema).enums) :
    enumeration.name = pascalCase enumeration.schemaName := by
  obtain ⟨type, -, rfl⟩ := List.mem_map.mp here
  rfl

theorem isIdentifier_of_constant {enumeration : Enumeration} {constant : EnumConstant}
    (here : enumeration ∈ (Model.ofSchema schema).enums)
    (member : constant ∈ enumeration.constants) : isIdentifier constant.name = true := by
  obtain ⟨type, -, rfl⟩ := List.mem_map.mp here
  exact isIdentifier_of_mem_constants member

theorem name_of_mem_classes (here : c ∈ (Model.ofSchema schema).classes) :
    c.name = pascalCase c.schemaName := by
  rw [classes_ofSchema] at here
  obtain ⟨entry, -, rfl⟩ := List.mem_map.mp here
  rw [classOf_name, classOf_schemaName]

end

/-- **Which names of a schema are no identifiers**: that of a type, or that of a field for a
nameless component. -/
theorem exists_invalid_declared_iff (schema : Schema) :
    (∃ name ∈ (Model.ofSchema schema).declaredNames, isIdentifier name = false) ↔
      (∃ enumeration ∈ (Model.ofSchema schema).enums,
        isIdentifier (pascalCase enumeration.schemaName) = false) ∨
      (∃ c ∈ (Model.ofSchema schema).classes, isIdentifier (pascalCase c.schemaName) = false) ∨
      ∃ c ∈ (Model.ofSchema schema).classes, ∃ field ∈ c.fields, Nameless field.schemaName := by
  constructor
  · rintro ⟨name, declared, invalid⟩
    have wrong : ¬ isIdentifier name = true := Bool.eq_false_iff.mp invalid
    rcases List.mem_append.mp declared with first | ofClass
    · rcases List.mem_cons.mp first with rfl | ofEnum
      · exact absurd (isIdentifier_packageName schema.targetNamespace) wrong
      · obtain ⟨enumeration, here, inside⟩ := List.mem_flatMap.mp ofEnum
        rcases List.mem_cons.mp inside with rfl | ofConstant
        · rw [name_of_mem_enums here] at invalid
          exact .inl ⟨enumeration, here, invalid⟩
        · obtain ⟨constant, member, rfl⟩ := List.mem_map.mp ofConstant
          exact absurd (isIdentifier_of_constant here member) wrong
    · obtain ⟨c, here, inside⟩ := List.mem_flatMap.mp ofClass
      rw [DataClass.declaredNames, statics_of_mem_ofSchema here, List.map_nil, ite_self,
        List.append_nil] at inside
      rcases List.mem_cons.mp inside with rfl | ofField
      · rw [name_of_mem_classes here] at invalid
        exact .inr (.inl ⟨c, here, invalid⟩)
      · obtain ⟨field, member, rfl⟩ := List.mem_map.mp ofField
        refine .inr (.inr ⟨c, here, field, member, Classical.byContradiction fun named => ?_⟩)
        exact wrong (isIdentifier_of_field here member named)
  · rintro (⟨enumeration, here, invalid⟩ | ⟨c, here, invalid⟩ | ⟨c, here, field, member, nameless⟩)
    · rw [← name_of_mem_enums here] at invalid
      exact ⟨_, mem_declaredNames_of_enumeration here, invalid⟩
    · rw [← name_of_mem_classes here] at invalid
      exact ⟨_, mem_declaredNames_of_class here, invalid⟩
    · have empty := empty_mem_fieldNames here member nameless
      obtain ⟨other, inside, named⟩ := List.mem_map.mp empty
      refine ⟨_, mem_declaredNames_of_field here inside, ?_⟩
      rw [named]
      decide

/-! ### Refusals -/

/-- **When the code of a schema is refused.** A schema that is read yields no code if and only if
the name of an enumeration or class is no identifier in Pascal case, or there is a field for a
nameless component. The fault then is that of a declared name that is no identifier. It never is the
name of a module or of a constant, nor one that a field gets for a component that is not nameless,
whether or not there is a number behind it. -/
theorem code_refused_iff {text : String} {schema : Schema}
    (accepted : Schema.ofText text = .ok schema) :
    let model := Model.ofSchema schema
    let code := (Settings.generate {} text).code
    ((∃ fault, code = .error fault) ↔
        (∃ enumeration ∈ model.enums, isIdentifier (pascalCase enumeration.schemaName) = false) ∨
        (∃ c ∈ model.classes, isIdentifier (pascalCase c.schemaName) = false) ∨
        ∃ c ∈ model.classes, ∃ field ∈ c.fields, Nameless field.schemaName) ∧
      (∀ fault, code = .error fault →
        ∃ name ∈ model.declaredNames, isIdentifier name = false ∧ fault = .identifier name) ∧
      (∀ targetNamespace, isIdentifier (packageName targetNamespace) = true) ∧
      (∀ schemaName lexicals, ∀ constant ∈ (Enumeration.ofLexicals schemaName lexicals).constants,
        isIdentifier constant.name = true) ∧
      (∀ schemaName, ¬ Nameless schemaName →
        isIdentifier (fieldName schemaName) = true ∧
          ∀ taken, isIdentifier (freshName taken (fieldName schemaName)) = true) ∧
      ∀ c ∈ model.classes, ∀ field ∈ c.fields, ¬ Nameless field.schemaName →
        isIdentifier field.name = true := by
  intro model code
  have checked : code = checkAll model.declaredNames (Lines.text model.lines) :=
    generate_of_schema accepted
  refine ⟨?_, ?_, isIdentifier_packageName, ?_, ?_, ?_⟩
  · rw [checked, checkAll_eq_error_iff]
    exact exists_invalid_declared_iff schema
  · intro fault failed
    rw [checked] at failed
    exact exists_of_checkAll_error failed
  · exact fun _ _ _ here => isIdentifier_of_mem_constants here
  · intro schemaName named
    have valid : isIdentifier (fieldName schemaName) = true := isIdentifier_fieldName_iff.mpr named
    exact ⟨valid, isIdentifier_freshName valid⟩
  · exact fun _ here _ member named => isIdentifier_of_field here member named

/-- A switch with an attribute that has no letter or digit in its name. -/
def switchText : String :=
  "<schema><complexType name='switch'><attribute name='on'/><attribute name='-'/></complexType>" ++
    "</schema>"

/-- The switch is read, and no code is generated for it. -/
theorem code_refused_switchText :
    ∃ schema, Schema.ofText switchText = .ok schema ∧
      ∃ fault, (Settings.generate {} switchText).code = .error fault := by
  have dash : ∃ schema ∈ (Schema.ofText switchText).toOption,
      ∃ c ∈ (Model.ofSchema schema).classes, ∃ field ∈ c.fields, Nameless field.schemaName := by
    decide +kernel
  obtain ⟨schema, kept, nameless⟩ := dash
  have accepted := ok_of_toOption kept
  exact ⟨schema, accepted, (code_refused_iff accepted).1.mpr (.inr (.inr nameless))⟩

end SchemaBinding
