/-
**What a top-level element changes in the classes of a schema.**

A top-level element is there to be referred to. When one is added under a new name, every class
stays where it is and keeps its fields, in order and under their names, and nearly all of them stay
as they are (`TopLevelElement.Changes`). A field that stems from a reference to the name changes,
since the reference now leads somewhere. But so does the field of an element that is declared where
it stands, under the same name and without a type, if the new element declares its type inside
itself: that type is looked up by the name of an element, whether or not the element is a reference
(`local_type_changes`).
-/

import SchemaBinding.Proofs.Model.FieldNames

namespace SchemaBinding

/-! ### Look-ups of elements -/

section

variable {schema : Schema} {element : TopLevelElement}

theorem addElement_findsAs : (schema.addElement element).FindsAs schema where
  simpleType _ := rfl
  complexType _ := rfl
  group _ := rfl

theorem element?_addElement (name : String) :
    (schema.addElement element).element? name =
      (schema.element? name).or (if element.decl.name = name then some element else none) := by
  by_cases same : element.decl.name = name <;>
    simp [Schema.element?, Schema.addElement, same, List.find?_append]

theorem hasAnonymousType_addElement (name : String) :
    (schema.addElement element).hasAnonymousType name =
      (schema.hasAnonymousType name ||
        (element.decl.name == name && element.anonymousType.isSome)) := by
  simp [Schema.hasAnonymousType, Schema.addElement]

theorem Schema.StandsFor.eq_of_own {decl standing : ElementDecl}
    (stands : schema.StandsFor decl standing) (own : decl.isReference = false) :
    standing = decl := by
  rw [stands.eq_resolveElement, Schema.resolveElement, own]
  rfl

/-- Whatever does not refer to the new element stands for what it stood for. -/
theorem resolveElement_addElement {decl : ElementDecl}
    (unrelated : ¬ (decl.isReference = true ∧ decl.name = element.decl.name)) :
    (schema.addElement element).resolveElement decl = schema.resolveElement decl := by
  unfold Schema.resolveElement
  by_cases reference : decl.isReference = true
  · have other : element.decl.name ≠ decl.name := fun same => unrelated ⟨reference, same.symm⟩
    rw [if_pos reference, if_pos reference, element?_addElement, if_neg other, Option.or_none]
  · rw [if_neg reference, if_neg reference]

end

/-! ### The fields that change -/

namespace FieldSource

/-- The declaration of the element that the source is, as it is written. -/
def element? : FieldSource → Option ElementDecl
  | .leaf path => path.getLast?.bind fun step => step.particle.element?
  | _ => none

/-- **The source is a reference** to elements of a name. -/
def RefersTo (source : FieldSource) (name : String) : Prop :=
  ∃ decl, source.element? = some decl ∧ decl.isReference = true ∧ decl.name = name

/-- **The source is an element without a type** that is declared where it stands. -/
def IsUntyped (source : FieldSource) (name : String) : Prop :=
  ∃ decl, source.element? = some decl ∧ decl.isReference = false ∧ decl.name = name ∧
    decl.typeName = none

end FieldSource

/-- **What becomes of a field when a top-level element is added.** -/
inductive TopLevelElement.Changes (element : TopLevelElement) (source : FieldSource)
    (before : Field) : Field → Prop
  | nothing (unrelated : ¬ source.RefersTo element.decl.name)
      (settled : ¬ (source.IsUntyped element.decl.name ∧ element.anonymousType.isSome = true)) :
      TopLevelElement.Changes element source before before
  | type (untyped : source.IsUntyped element.decl.name)
      (anonymous : element.anonymousType.isSome = true) (unknown : before.type = .anyType) :
      TopLevelElement.Changes element source before
        { before with type := .dataClass (pascalCase element.decl.name) }
  | reference {after : Field} (refers : source.RefersTo element.decl.name)
      (name : after.name = before.name) (schemaName : after.schemaName = before.schemaName)
      (repeated : after.repeated = before.repeated) :
      TopLevelElement.Changes element source before after

/-- Nothing happens to a field that does not stem from an element. -/
theorem TopLevelElement.Changes.of_element?_eq_none {element : TopLevelElement}
    {source : FieldSource} (none : source.element? = none) (field : Field) :
    element.Changes source field field := by
  refine .nothing ?_ ?_
  · rintro ⟨decl, declared, -⟩
    exact nomatch none.symm.trans declared
  · rintro ⟨⟨decl, declared, -⟩, -⟩
    exact nomatch none.symm.trans declared

/-- A field is known by what it carries, its name and its initializer. -/
theorem Field.Carries.eq {before after : Field} {schemaName : String} {type : FieldType}
    {origin : Origin} {optional repeated : Prop}
    (old : before.Carries schemaName type origin optional repeated)
    (new : after.Carries schemaName type origin optional repeated)
    (name : after.name = before.name) (initializer : after.initializer = before.initializer) :
    after = before := by
  have optionals : after.optional = before.optional :=
    Bool.eq_iff_iff.mpr (new.optional.trans old.optional.symm)
  have repeateds : after.repeated = before.repeated :=
    Bool.eq_iff_iff.mpr (new.repeated.trans old.repeated.symm)
  cases before
  cases after
  simp only [Field.mk.injEq]
  exact ⟨name, new.schemaName.trans old.schemaName.symm, new.type.trans old.type.symm,
    new.origin.trans old.origin.symm, optionals, repeateds, initializer⟩

section

variable {schema : Schema} {element : TopLevelElement} {source : FieldSource}

/-- No type is declared inside an element of a new name. -/
theorem hasAnonymousType_of_fresh
    (fresh : ∀ other ∈ schema.elements, other.decl.name ≠ element.decl.name) :
    schema.hasAnonymousType element.decl.name = false := by
  refine List.any_eq_false.mpr fun other member inside => ?_
  exact fresh other member (beq_iff_eq.mp (Bool.and_eq_true_iff.mp inside).1)

/-- The type of an element changes if it is looked up by the name of the new one. -/
theorem elementType_addElement
    (fresh : ∀ other ∈ schema.elements, other.decl.name ≠ element.decl.name) (decl : ElementDecl) :
    (schema.addElement element).elementType decl =
      if decl.name = element.decl.name ∧ decl.typeName = none ∧
          element.anonymousType.isSome = true then
        .dataClass (pascalCase element.decl.name)
      else schema.elementType decl := by
  unfold Schema.elementType
  rw [hasAnonymousType_addElement, resolveType_eq addElement_findsAs]
  by_cases same : decl.name = element.decl.name
  · rw [same, hasAnonymousType_of_fresh fresh]
    cases typed : decl.typeName <;> simp
  · have other : (element.decl.name == decl.name) = false := beq_false_of_ne (Ne.symm same)
    simp [same, other]

/-- A field that stems from a declaration in both schemas is the same, or gets the new type. -/
theorem changes_of_carries
    (fresh : ∀ other ∈ schema.elements, other.decl.name ≠ element.decl.name)
    {decl standing : ElementDecl} (declared : source.element? = some decl)
    (stands : schema.StandsFor decl standing)
    (unrelated : ¬ (decl.isReference = true ∧ decl.name = element.decl.name)) {old new : Field}
    {origin : Origin} {optional repeated : Prop}
    (before : old.Carries standing.name (schema.elementType standing) origin optional repeated)
    (after : new.Carries standing.name ((schema.addElement element).elementType standing) origin
      optional repeated)
    (name : new.name = old.name) (initializer : new.initializer = old.initializer) :
    element.Changes source old new := by
  have foreign : ¬ source.RefersTo element.decl.name := by
    rintro ⟨_, declared', reference, same⟩
    obtain rfl := Option.some.inj (declared.symm.trans declared')
    exact unrelated ⟨reference, same⟩
  rw [elementType_addElement fresh standing] at after
  by_cases changed : standing.name = element.decl.name ∧ standing.typeName = none ∧
      element.anonymousType.isSome = true
  · obtain ⟨same, typeless, anonymous⟩ := changed
    have own : decl.isReference = false :=
      Bool.eq_false_iff.mpr fun reference =>
        unrelated ⟨reference, stands.name_eq.symm.trans same⟩
    obtain rfl : standing = decl := stands.eq_of_own own
    have unknown : schema.elementType standing = .anyType := by
      unfold Schema.elementType
      rw [same, hasAnonymousType_of_fresh fresh, typeless]
      rfl
    rw [if_pos ⟨same, typeless, anonymous⟩] at after
    have retyped : { old with type := .dataClass (pascalCase element.decl.name) }.Carries
        standing.name (.dataClass (pascalCase element.decl.name)) origin optional repeated :=
      ⟨before.schemaName, rfl, before.origin, before.optional, before.repeated⟩
    rw [retyped.eq after name initializer]
    exact .type ⟨standing, declared, own, same, typeless⟩ anonymous
      (before.type.trans unknown)
  · rw [if_neg changed] at after
    rw [before.eq after name initializer]
    refine .nothing foreign ?_
    rintro ⟨⟨_, declared', own, same, typeless⟩, anonymous⟩
    obtain rfl := Option.some.inj (declared.symm.trans declared')
    obtain rfl : standing = decl := stands.eq_of_own own
    exact changed ⟨same, typeless, anonymous⟩

/-- **What becomes of a field depends on what it stems from.** -/
theorem changes_of_stemsFrom
    (fresh : ∀ other ∈ schema.elements, other.decl.name ≠ element.decl.name) {old new : Field}
    (before : schema.StemsFrom source old) (after : (schema.addElement element).StemsFrom source new)
    (name : new.name = old.name) (initializer : new.initializer = old.initializer) :
    element.Changes source old new := by
  cases before with
  | @element path _ _ decl _ _ ends stands carries =>
    cases after with
    | element ends' stands' carries' =>
      obtain ⟨rfl, rfl⟩ := Particle.element.inj (Path.particle_eq_of_ends ends ends')
      have declared : (FieldSource.leaf path).element? = some decl := by
        rw [FieldSource.element?, ends]
        rfl
      by_cases refers : decl.isReference = true ∧ decl.name = element.decl.name
      · refine .reference ⟨decl, declared, refers⟩ name ?_ ?_
        · rw [carries.schemaName, carries'.schemaName, stands.name_eq, stands'.name_eq]
        · exact Bool.eq_iff_iff.mpr (carries'.repeated.trans carries.repeated.symm)
      · obtain rfl := stands'.eq_resolveElement.trans
          ((resolveElement_addElement refers).trans stands.eq_resolveElement.symm)
        exact changes_of_carries fresh declared stands refers carries carries' name initializer
    | groupRef ends' | wildcard ends' => exact nomatch Path.particle_eq_of_ends ends ends'
  | @groupRef path _ _ _ _ ends carries =>
    cases after with
    | groupRef ends' carries' =>
      obtain ⟨rfl, rfl⟩ := Particle.groupRef.inj (Path.particle_eq_of_ends ends ends')
      rw [carries.eq carries' name initializer]
      refine .of_element?_eq_none ?_ old
      rw [FieldSource.element?, ends]
      rfl
    | element ends' | wildcard ends' => exact nomatch Path.particle_eq_of_ends ends ends'
  | @wildcard path _ _ _ ends carries =>
    cases after with
    | wildcard ends' carries' =>
      obtain rfl := Particle.wildcard.inj (Path.particle_eq_of_ends ends ends')
      rw [carries.eq carries' name initializer]
      refine .of_element?_eq_none ?_ old
      rw [FieldSource.element?, ends]
      rfl
    | element ends' | groupRef ends' => exact nomatch Path.particle_eq_of_ends ends ends'
  | attributeDecl carries =>
    cases after with
    | attributeDecl carries' =>
      rw [resolveType_eq addElement_findsAs] at carries'
      rw [carries.eq carries' name initializer]
      exact .of_element?_eq_none rfl old
  | simpleContent carries =>
    cases after with
    | simpleContent carries' =>
      rw [resolveType_eq addElement_findsAs] at carries'
      rw [carries.eq carries' name initializer]
      exact .of_element?_eq_none rfl old

/-- Fields that stem from the same sources are compared one by one. -/
theorem changes_of_stemsFrom_all
    (fresh : ∀ other ∈ schema.elements, other.decl.name ≠ element.decl.name)
    {sources : List FieldSource} {olds news : List Field}
    (before : List.Forall₂ schema.StemsFrom sources olds)
    (after : List.Forall₂ (schema.addElement element).StemsFrom sources news)
    (names : news.map (·.name) = olds.map (·.name))
    (old : ∀ field ∈ olds, field.initializer = none)
    (new : ∀ field ∈ news, field.initializer = none) :
    List.Forall₂ (fun source fields => element.Changes source fields.1 fields.2) sources
      (olds.zip news) := by
  induction before generalizing news with
  | nil => exact .nil
  | cons stems _ ih =>
    cases after with
    | cons stems' later =>
      obtain ⟨name, names⟩ := List.cons.inj names
      obtain ⟨oldFirst, oldLater⟩ := List.forall_mem_cons.mp old
      obtain ⟨newFirst, newLater⟩ := List.forall_mem_cons.mp new
      refine .cons ?_ (ih later names oldLater newLater)
      exact changes_of_stemsFrom fresh stems stems' name (newFirst.trans oldFirst.symm)

/-- The class of a new element comes last. -/
theorem classTypes_addElement (schema : Schema) (element : TopLevelElement) :
    (schema.addElement element).classTypes =
      schema.classTypes ++
        (element.anonymousType.map fun type => (element.decl.name, type)).toList := by
  unfold Schema.classTypes Schema.addElement
  cases anonymous : element.anonymousType <;> simp [anonymous]

end

/-- **What a top-level element of a new name changes in the classes of a schema.** Every class stays
where it is, with as many fields as before, each under its name. What becomes of a field depends on
its source: a field changes only if it stems from a reference to the new element, or if it stems
from an element of the same name that is declared where it stands and has no type, while the new
element declares its type inside itself. In the latter case it gets this type, and keeps all
else. -/
theorem classes_addElement (schema : Schema) (element : TopLevelElement)
    (fresh : ∀ other ∈ schema.elements, other.decl.name ≠ element.decl.name) {index : Nat}
    {c : DataClass} (here : (Model.ofSchema schema).classes[index]? = some c) :
    ∃ type fields, schema.classTypes[index]? = some (c.schemaName, type) ∧
      List.Forall₂ schema.StemsFrom (schema.fieldSources type) c.fields ∧
      (Model.ofSchema (schema.addElement element)).classes[index]? = some { c with fields } ∧
      fields.length = c.fields.length ∧
      List.Forall₂ (fun source pair => element.Changes source pair.1 pair.2)
        (schema.fieldSources type) (c.fields.zip fields) := by
  rw [classes_ofSchema, List.getElem?_map] at here
  obtain ⟨⟨name, type⟩, entry, rfl⟩ := Option.map_eq_some_iff.mp here
  let extended := schema.addElement element
  have alike : extended.FindsAs schema := addElement_findsAs
  have names := classOf_fieldNames_eq alike name type
  have old := stemsFrom_classOf schema name type
  have new := stemsFrom_classOf extended name type
  rw [fieldSources_eq alike] at new
  refine ⟨type, (extended.classOf name type).fields, ?_, old, ?_, ?_, ?_⟩
  · rw [classOf_schemaName]
    exact entry
  · have later : extended.classTypes[index]? = some (name, type) := by
      rw [classTypes_addElement, List.getElem?_append_left (List.getElem?_eq_some_iff.mp entry).1]
      exact entry
    rw [classes_ofSchema, List.getElem?_map, later, classOf_eq schema name type]
    exact congrArg some (classOf_eq extended name type)
  · simpa using congrArg List.length names
  · exact changes_of_stemsFrom_all fresh old new names (fun _ => initializer_of_mem_classOf)
      fun _ => initializer_of_mem_classOf

/-- A letter has a body, a stamp of its own, and one that refers to stamps. -/
def letterType : ComplexType where
  name := "letter"
  particles := [
    .element {} { name := "body", typeName := some "xs:string" },
    .element {} { name := "stamp" },
    .element {} { name := "stamp", isReference := true }]

def letterSchema : Schema := { complexTypes := [letterType] }

/-- A stamp, whose type is declared inside it. -/
def stampElement : TopLevelElement where
  decl := { name := "stamp" }
  anonymousType := some { name := "stamp" }

theorem stampElement_fresh :
    ∀ other ∈ letterSchema.elements, other.decl.name ≠ stampElement.decl.name :=
  fun _ member => absurd member List.not_mem_nil

/-- The letter keeps its three fields when stamps are declared. -/
theorem classes_addElement_letterSchema :
    (∀ other ∈ letterSchema.elements, other.decl.name ≠ stampElement.decl.name) ∧
      ∃ c, (Model.ofSchema letterSchema).classes[0]? = some c ∧ c.fields.length = 3 ∧
        ∃ type fields, letterSchema.classTypes[0]? = some (c.schemaName, type) ∧
          List.Forall₂ letterSchema.StemsFrom (letterSchema.fieldSources type) c.fields ∧
          (Model.ofSchema (letterSchema.addElement stampElement)).classes[0]? =
            some { c with fields } ∧
          fields.length = c.fields.length ∧
          List.Forall₂ (fun source pair => stampElement.Changes source pair.1 pair.2)
            (letterSchema.fieldSources type) (c.fields.zip fields) := by
  have here : (Model.ofSchema letterSchema).classes[0]? =
      some (letterSchema.classOf "letter" letterType) := by
    rw [classes_ofSchema]
    rfl
  exact ⟨stampElement_fresh, _, here, by decide +kernel,
    classes_addElement letterSchema stampElement stampElement_fresh here⟩

/-- **A stamp that is declared where it stands changes its type**, although it refers to nothing,
when a top-level element of its name is added. -/
theorem local_type_changes :
    (∀ other ∈ letterSchema.elements, other.decl.name ≠ stampElement.decl.name) ∧
      ∃ source, (letterSchema.fieldSources letterType)[1]? = some source ∧
        ¬ source.RefersTo "stamp" ∧
        ((Model.ofSchema letterSchema).classes[0]?.bind fun c => c.fields[1]?.map Field.type) =
          some .anyType ∧
        ((Model.ofSchema (letterSchema.addElement stampElement)).classes[0]?.bind fun c =>
          c.fields[1]?.map Field.type) = some (.dataClass "Stamp") := by
  refine ⟨stampElement_fresh, _, rfl, ?_, by decide +kernel, by decide +kernel⟩
  rintro ⟨decl, declared, reference, -⟩
  obtain rfl := Option.some.inj declared
  exact nomatch reference

end SchemaBinding
