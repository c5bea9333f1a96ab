/-
**The names of types in the source of fields.**

A field is declared under its name and with the name of its type, inside a list or an option if need
be. The former is checked to be an identifier; the latter is written as it is. So the source of a
schema depends on what names it declares, and not on what types its fields refer to.

Nearly all names of types are identifiers all the same: those of classes and enumerations, since
they are declared, and those of built-in types but for the byte list. What remains are fields whose
source misses its type (`Schema.Misses`): a reference to a group that is not replaced, or a
reference to a type that ends nowhere. Such a field has a type that is named after the last name
reached, whatever characters are in it (`field_types_written`).
-/

import SchemaBinding.Proofs.Fallible
import SchemaBinding.Proofs.Model.Correspondence
import SchemaBinding.Proofs.Model.References
import SchemaBinding.Proofs.Model.TypeNames
import SchemaBinding.Proofs.Source.Rendering

namespace SchemaBinding

/-- **The source of a field misses its type**, and a name is all there is in its place. -/
inductive Schema.Misses (schema : Schema) : FieldSource → String → Prop
  | groupRef {path : Path} {index : Nat} {occurs : Occurs} {name : String}
      (ends : path.getLast? = some ⟨index, .groupRef occurs name⟩) :
      Schema.Misses schema (.leaf path) name
  | element {path : Path} {index : Nat} {occurs : Occurs} {decl standing : ElementDecl}
      {reference last : String} (ends : path.getLast? = some ⟨index, .element occurs decl⟩)
      (stands : schema.StandsFor decl standing) (typed : standing.typeName = some reference)
      (nowhere : schema.EndsNowhere (localName reference) last) :
      Schema.Misses schema (.leaf path) last
  | attributeDecl {decl : AttributeDecl} {reference last : String}
      (typed : decl.typeName = some reference)
      (nowhere : schema.EndsNowhere (localName reference) last) :
      Schema.Misses schema (.attributeDecl decl) last
  | simpleContent {base last : String} (nowhere : schema.EndsNowhere (localName base) last) :
      Schema.Misses schema (.simpleContent base) last

/-- **A type that is more than a name**: a generated or a built-in one, or that of any content. -/
inductive FieldType.IsKnown : FieldType → Prop
  | dataClass (name : String) : FieldType.IsKnown (.dataClass name)
  | enumeration (name : String) : FieldType.IsKnown (.enumeration name)
  | builtin (builtin : BuiltinType) (name : String) :
      FieldType.IsKnown (.ofBuiltin builtin name)
  | anyType : FieldType.IsKnown .anyType

section

variable {schema : Schema}

/-! ### Which fields miss their type -/

theorem resolveType_known_or_unknown (reference : String) :
    (schema.resolveType (some reference)).IsKnown ∨
      ∃ last, schema.EndsNowhere (localName reference) last ∧
        schema.resolveType (some reference) = .unknown last := by
  show (schema.resolveName maxResolveDepth (localName reference)).IsKnown ∨ _
  rcases ends_or_leads schema maxResolveDepth (localName reference) with
    ⟨moves, last, type, few, leads, means⟩ | ⟨last, leads⟩
  · rw [resolveName_of_ends few leads means]
    cases means with
    | enumeration => exact .inl (.enumeration _)
    | dataClass => exact .inl (.dataClass _)
    | builtin => exact .inl (.builtin _ _)
    | unknown unknown =>
      have nowhere : schema.EndsNowhere (localName reference) last := .unknown few leads unknown
      exact .inr ⟨last, nowhere, resolveName_of_endsNowhere nowhere⟩
  · have nowhere : schema.EndsNowhere (localName reference) last := .givenUp leads
    exact .inr ⟨last, nowhere, resolveName_of_endsNowhere nowhere⟩

/-- The type of an element that has one of its own is what its reference leads to. -/
theorem elementType_of_typeName {decl : ElementDecl} {reference : String}
    (typed : decl.typeName = some reference) :
    schema.elementType decl = schema.resolveType (some reference) := by
  unfold Schema.elementType
  rw [typed]
  rfl

theorem elementType_known_of_untyped {decl : ElementDecl} (untyped : decl.typeName = none) :
    (schema.elementType decl).IsKnown := by
  unfold Schema.elementType
  rw [untyped]
  by_cases anonymous : schema.hasAnonymousType decl.name = true
  · rw [anonymous]
    exact .dataClass _
  · rw [Bool.eq_false_iff.mpr anonymous]
    exact .anyType

/-- **A field has a known type, or its source misses the type**, which then is a mere name. -/
theorem known_or_misses {source : FieldSource} {field : Field}
    (stems : schema.StemsFrom source field) :
    field.type.IsKnown ∨ ∃ last, schema.Misses source last ∧ field.type = .unknown last := by
  cases stems with
  | @element _ _ _ _ standing _ ends stands carries =>
    rw [carries.type]
    cases typed : standing.typeName with
    | none =>
      -- Without a reference there is nothing to miss: the type is anonymous or of any content.
      exact .inl (elementType_known_of_untyped typed)
    | some reference =>
      rw [elementType_of_typeName typed]
      refine (resolveType_known_or_unknown reference).imp_right ?_
      rintro ⟨last, nowhere, same⟩
      exact ⟨last, .element ends stands typed nowhere, same⟩
  | groupRef ends carries =>
    exact .inr ⟨_, .groupRef ends, carries.type⟩
  | wildcard ends carries =>
    rw [carries.type]
    exact .inl .anyType
  | @attributeDecl decl _ carries =>
    rw [carries.type]
    cases typed : decl.typeName with
    | none => exact .inl .anyType
    | some reference =>
      refine (resolveType_known_or_unknown reference).imp_right ?_
      rintro ⟨last, nowhere, same⟩
      exact ⟨last, .attributeDecl typed nowhere, same⟩
  | @simpleContent base _ carries =>
    rw [carries.type]
    refine (resolveType_known_or_unknown base).imp_right ?_
    rintro ⟨last, nowhere, same⟩
    exact ⟨last, .simpleContent nowhere, same⟩

/-- A source that misses its type leaves nothing but a name to its field. -/
theorem type_of_misses {source : FieldSource} {last : String} (misses : schema.Misses source last)
    {field : Field} (stems : schema.StemsFrom source field) : field.type = .unknown last := by
  cases misses with
  | groupRef ends =>
    cases stems with
    | groupRef ends' carries =>
      obtain ⟨rfl, rfl⟩ := Particle.groupRef.inj (Path.particle_eq_of_ends ends ends')
      exact carries.type
    | element ends' | wildcard ends' => exact nomatch Path.particle_eq_of_ends ends ends'
  | element ends stands typed nowhere =>
    cases stems with
    | element ends' stands' carries =>
      obtain ⟨rfl, rfl⟩ := Particle.element.inj (Path.particle_eq_of_ends ends ends')
      obtain rfl := stands'.eq_resolveElement.trans stands.eq_resolveElement.symm
      rw [carries.type, elementType_of_typeName typed]
      exact resolveName_of_endsNowhere nowhere
    | groupRef ends' | wildcard ends' => exact nomatch Path.particle_eq_of_ends ends ends'
  | attributeDecl typed nowhere =>
    cases stems with
    | attributeDecl carries =>
      rw [carries.type, typed]
      exact resolveName_of_endsNowhere nowhere
  | simpleContent nowhere =>
    cases stems with
    | simpleContent carries =>
      rw [carries.type]
      exact resolveName_of_endsNowhere nowhere

/-! ### Which names of types are identifiers -/

theorem ofBuiltin_isIdentifier (builtin : BuiltinType) (name : String) :
    isIdentifier (FieldType.ofBuiltin builtin name).typeName = true ∨
      (FieldType.ofBuiltin builtin name).typeName = "Vec<u8>" := by
  cases builtin with
  | binary => exact .inr rfl
  | _ =>
    left
    simp only [FieldType.ofBuiltin, FieldType.typeName]
    decide

/-- The name of a known type is an identifier, if all names that the model declares are. -/
theorem isIdentifier_of_isKnown {model : Model}
    (valid : ∀ name ∈ model.declaredNames, isIdentifier name = true) {type : FieldType}
    (known : type.IsKnown) (defined : type.DefinedIn model) :
    isIdentifier type.typeName = true ∨ type.typeName = "Vec<u8>" := by
  cases known with
  | dataClass name =>
    obtain ⟨c, member, rfl⟩ := defined
    exact .inl (valid _ (mem_declaredNames_of_class member))
  | enumeration name =>
    obtain ⟨enumeration, member, rfl⟩ := defined
    exact .inl (valid _ (mem_declaredNames_of_enumeration member))
  | builtin builtin name => exact ofBuiltin_isIdentifier builtin name
  | anyType => exact .inl (by decide)

/-- **The name of the type of a field is no identifier** only if it is the byte list, or if it is
all there is of a missing type. -/
theorem typeName_isIdentifier_iff {model : Model}
    (valid : ∀ name ∈ model.declaredNames, isIdentifier name = true) {source : FieldSource}
    {field : Field} (stems : schema.StemsFrom source field)
    (defined : field.type.DefinedIn model) :
    isIdentifier field.type.typeName = false ↔
      field.type.typeName = "Vec<u8>" ∨
        ∃ last, schema.Misses source last ∧ isIdentifier (pascalCase last) = false := by
  constructor
  · intro invalid
    rcases known_or_misses stems with known | ⟨last, misses, unknown⟩
    · rcases isIdentifier_of_isKnown valid known defined with proper | bytes
      · exact absurd (invalid.symm.trans proper) Bool.false_ne_true
      · exact .inl bytes
    · rw [unknown] at invalid
      exact .inr ⟨last, misses, invalid⟩
  · rintro (bytes | ⟨last, misses, invalid⟩)
    · rw [bytes]
      decide
    · rw [type_of_misses misses stems]
      exact invalid

end

/-- **The line of a field shows the name of its type**, as the type of the items of a list if the
field is repeated, and as that of an option if it is optional. -/
theorem typeName_mem_lines {model : Model} {c : DataClass} {field : Field}
    (here : c ∈ model.classes) (member : field ∈ c.fields) :
    let base := field.type.typeName
    "    pub " ++ field.name ++ ": " ++
        (if field.repeated then "Vec<" ++ base ++ ">"
          else if field.optional then "Option<" ++ base ++ ">" else base) ++ "," ∈ model.lines := by
  have declared := declarationLine_mem_lines here member
  have indented : "    " ++ field.declarationLine =
      "    pub " ++ field.name ++ ": " ++ field.sourceType ++ "," := by
    have word : "    pub " = "    " ++ "pub " := by decide
    unfold Field.declarationLine
    rw [word]
    simp only [String.append_assoc]
  rwa [indented] at declared

/-- **The names of types are written without being checked.** The code of an accepted schema is the
text of the lines of its model, each of them ended, if the names that the model declares are
identifiers, and this does not depend on the types of fields. If so, every field is declared on a
line of its own with the name of its type, as it is or inside a list or an option. The name is that
of the byte list, or an identifier, or it is all there is of a type that the source of the field
misses. In the last case it is the last name that was reached, in Pascal case, whether or not that
is an identifier. -/
theorem field_types_written {text : String} {schema : Schema}
    (accepted : Schema.ofText text = .ok schema) :
    let model := Model.ofSchema schema
    (Settings.generate {} text).code =
        checkAll model.declaredNames (String.join (model.lines.map (· ++ "\n"))) ∧
      ((∀ name ∈ model.declaredNames, isIdentifier name = true) →
        ∀ (index : Nat) (name : String) (type : ComplexType),
          schema.classTypes[index]? = some (name, type) →
            ∃ c, model.classes[index]? = some c ∧
              List.Forall₂ (fun source field =>
                let base := field.type.typeName
                "    pub " ++ field.name ++ ": " ++
                    (if field.repeated then "Vec<" ++ base ++ ">"
                      else if field.optional then "Option<" ++ base ++ ">" else base) ++ "," ∈
                    model.lines ∧
                  (∀ last, schema.Misses source last → field.type.typeName = pascalCase last) ∧
                  (isIdentifier field.type.typeName = false ↔
                    field.type.typeName = "Vec<u8>" ∨
                      ∃ last, schema.Misses source last ∧
                        isIdentifier (pascalCase last) = false))
                (schema.fieldSources type) c.fields) := by
  intro model
  refine ⟨generate_of_schema accepted, fun valid index name type entry => ?_⟩
  let c := schema.classOf name type
  have here : model.classes[index]? = some c := by
    show (Model.ofSchema schema).classes[index]? = some c
    rw [classes_ofSchema, List.getElem?_map, entry]
    rfl
  refine ⟨c, here, ?_⟩
  have stems : List.Forall₂ (fun field source => field ∈ c.fields ∧ schema.StemsFrom source field)
      c.fields (schema.fieldSources type) :=
    (List.forall₂_and_left _ _).mpr
      ⟨fun _ member => member, (stemsFrom_classOf schema name type).flip⟩
  refine stems.flip.imp ?_
  rintro source field ⟨member, stems⟩
  obtain ⟨base, inside, same⟩ := exists_of_mem_classOf member
  have defined : field.type.DefinedIn model := by
    rw [← base.type_of_unnamed same]
    exact fieldsOf_definedIn schema type base inside
  refine ⟨typeName_mem_lines (List.mem_of_getElem? here) member, ?_,
    typeName_isIdentifier_iff valid stems defined⟩
  intro last misses
  rw [type_of_misses misses stems]
  rfl

/-- A book has a cover in bytes, and a number of a type that the schema does not have. -/
def bookText : String :=
  "<schema><complexType name='book'><attribute name='cover' type='xs:hexBinary'/>" ++
    "<attribute name='number' type='isbn-13'/></complexType></schema>"

/-- Both types of a book are written, the bytes and the name of the missing type. -/
theorem field_types_written_bookText :
    ∃ schema type c, Schema.ofText bookText = .ok schema ∧
      schema.classTypes[0]? = some ("book", type) ∧
      (∀ name ∈ (Model.ofSchema schema).declaredNames, isIdentifier name = true) ∧
      (Model.ofSchema schema).classes[0]? = some c ∧
      c.fields.map (fun field => field.type.typeName) = ["Vec<u8>", "Isbn13"] ∧
      List.Forall₂ (fun source field =>
        let base := field.type.typeName
        "    pub " ++ field.name ++ ": " ++
            (if field.repeated then "Vec<" ++ base ++ ">"
              else if field.optional then "Option<" ++ base ++ ">" else base) ++ "," ∈
            (Model.ofSchema schema).lines ∧
          (∀ last, schema.Misses source last → field.type.typeName = pascalCase last) ∧
          (isIdentifier field.type.typeName = false ↔
            field.type.typeName = "Vec<u8>" ∨
              ∃ last, schema.Misses source last ∧ isIdentifier (pascalCase last) = false))
        (schema.fieldSources type) c.fields := by
  have read : (Schema.ofText bookText).toOption.bind (fun schema =>
      (Model.ofSchema schema).classes[0]?.map fun c =>
        (schema.classTypes[0]?.map Prod.fst,
          (Model.ofSchema schema).declaredNames.all isIdentifier,
          c.fields.map fun field => field.type.typeName)) =
      some (some "book", true, ["Vec<u8>", "Isbn13"]) := by decide +kernel
  obtain ⟨schema, accepted, first⟩ := Option.bind_eq_some_iff.mp read
  obtain ⟨c, here, parts⟩ := Option.map_eq_some_iff.mp first
  obtain ⟨named, checked, types⟩ : _ ∧ _ ∧ _ := by simpa only [Prod.mk.injEq] using parts
  obtain ⟨⟨_, type⟩, entry, rfl⟩ := Option.map_eq_some_iff.mp named
  have accepted : Schema.ofText bookText = .ok schema := ok_of_toOption accepted
  have valid : ∀ name ∈ (Model.ofSchema schema).declaredNames, isIdentifier name = true :=
    List.all_eq_true.mp checked
  obtain ⟨d, same, written⟩ := (field_types_written accepted).2 valid 0 _ type entry
  obtain rfl := Option.some.inj (here.symm.trans same)
  exact ⟨schema, type, c, accepted, entry, valid, here, types, written⟩

/-- **A name that is no identifier is written in the place of a type**, although the code is
generated: the type that the only field of a class refers to is missing. -/
theorem invalid_type_name_written :
    let text := "<schema><complexType name=\"A\"><sequence><element name=\"b\" type=\"x!\"/>" ++
      "</sequence></complexType></schema>"
    (Settings.generate {} text).code.toOption = some (String.join ([
        "// Generated by ironxsd. Do not edit.", "", "pub mod generated \x7b",
        "#[allow(unused_imports)]", "use super::*;", "",
        "/// Generated from complex type `A`.", "#[derive(Debug, Clone, Default)]",
        "pub struct A \x7b", "    /// Schema component `b`.", "    pub b: X!,", "\x7d", "",
        "\x7d"].map (· ++ "\n"))) ∧
      ((Schema.ofText text).toOption.map fun schema => (Model.ofSchema schema).classes.map fun c =>
        c.fields.map fun field => (field.sourceType, field.type.typeName)) =
          some [[("X!", "X!")]] ∧
      isIdentifier "X!" = false := by
  intro text
  exact ⟨by decide +kernel, by decide +kernel, by decide +kernel⟩

end SchemaBinding
