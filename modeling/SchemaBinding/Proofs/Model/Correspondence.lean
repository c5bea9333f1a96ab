/-
**Where the fields of a class come from.**

Every field of a class stems from one source: from a leaf of the content, which a path leads to,
from an attribute, or from simple content. `Schema.StemsFrom` says what the field has of its source:
names, type and occurrences. An element that refers to a top-level element of its name has
everything of that but the occurrences (`Schema.StandsFor`).

`fields_correspond` goes through a class field by field: the sources are all paths through the
content, in document order, then the attributes that are not prohibited, then simple content, and
each of them has one field.
-/

import SchemaBinding.Proofs.Content.Paths
import SchemaBinding.Proofs.Model.ClassFields

namespace SchemaBinding

/-- **The declaration that an element stands for**: its own, or for a reference that of the first
top-level element of its name. -/
inductive Schema.StandsFor (schema : Schema) (decl : ElementDecl) : ElementDecl → Prop
  | itself (own : decl.isReference = false) : Schema.StandsFor schema decl decl
  | referred {earlier later : List TopLevelElement} {element : TopLevelElement}
      (reference : decl.isReference = true) (split : schema.elements = earlier ++ element :: later)
      (same : element.decl.name = decl.name)
      (first : ∀ other ∈ earlier, other.decl.name ≠ decl.name) :
      Schema.StandsFor schema decl element.decl
  | dangling (reference : decl.isReference = true)
      (unknown : ∀ element ∈ schema.elements, element.decl.name ≠ decl.name) :
      Schema.StandsFor schema decl decl

theorem standsFor_resolveElement (schema : Schema) (decl : ElementDecl) :
    schema.StandsFor decl (schema.resolveElement decl) := by
  unfold Schema.resolveElement
  by_cases reference : decl.isReference = true
  · rw [if_pos reference]
    cases found : schema.element? decl.name with
    | some element =>
      obtain ⟨same, earlier, later, split, first⟩ := List.find?_eq_some_iff_append.mp found
      refine .referred reference split (beq_iff_eq.mp same) fun other member => ?_
      simpa using first other member
    | none =>
      refine .dangling reference fun element member => ?_
      simpa using List.find?_eq_none.mp found element member
  · rw [if_neg reference]
    exact .itself (Bool.eq_false_iff.mpr reference)

/-- An element stands for one declaration only. -/
theorem Schema.StandsFor.eq_resolveElement {schema : Schema} {decl standing : ElementDecl}
    (stands : schema.StandsFor decl standing) : standing = schema.resolveElement decl := by
  unfold Schema.resolveElement
  cases stands with
  | itself own => rw [if_neg (Bool.eq_false_iff.mp own)]
  | referred reference split same first =>
    have found : schema.element? decl.name = some _ :=
      List.find?_eq_some_iff_append.mpr
        ⟨beq_iff_eq.mpr same, _, _, split, fun other member => by simpa using first other member⟩
    rw [if_pos reference, found]
  | dangling reference unknown =>
    have missing : schema.element? decl.name = none :=
      List.find?_eq_none.mpr fun other member => by simpa using unknown other member
    rw [if_pos reference, missing]

/-- A path ends at one particle only. -/
theorem Path.particle_eq_of_ends {path : Path} {first second : Step}
    (ends : path.getLast? = some first) (ends' : path.getLast? = some second) :
    first.particle = second.particle :=
  congrArg Step.particle (Option.some.inj (ends.symm.trans ends'))

/-- What a field may stem from. -/
inductive FieldSource
  | leaf (path : Path)
  | attributeDecl (decl : AttributeDecl)
  | simpleContent (base : String)

/-- **The sources of the fields of a complex type**, in order. -/
def Schema.fieldSources (schema : Schema) (type : ComplexType) : List FieldSource :=
  (schema.leafPaths type.particles).map .leaf ++
    (type.attributes.filter (·.use != .prohibited)).map .attributeDecl ++
      type.simpleContent.toList.map .simpleContent

/-- All that a field says, but for its own name. -/
structure Field.Carries (field : Field) (schemaName : String) (type : FieldType) (origin : Origin)
    (optional repeated : Prop) : Prop where
  schemaName : field.schemaName = schemaName
  type : field.type = type
  origin : field.origin = origin
  optional : field.optional = true ↔ optional
  repeated : field.repeated = true ↔ repeated

theorem Field.Carries.ofUnnamed {field other : Field} {schemaName : String} {type : FieldType}
    {origin : Origin} {optional repeated : Prop}
    (carries : field.Carries schemaName type origin optional repeated)
    (same : other.unnamed = field.unnamed) :
    other.Carries schemaName type origin optional repeated where
  schemaName := (other.schemaName_of_unnamed same).trans carries.schemaName
  type := (other.type_of_unnamed same).trans carries.type
  origin := (other.origin_of_unnamed same).trans carries.origin
  optional := by
    rw [other.optional_of_unnamed same]
    exact carries.optional
  repeated := by
    rw [other.repeated_of_unnamed same]
    exact carries.repeated

/-- **What a field has of its source.** -/
inductive Schema.StemsFrom (schema : Schema) : FieldSource → Field → Prop
  | element {path : Path} {index : Nat} {occurs : Occurs} {decl standing : ElementDecl}
      {field : Field} (ends : path.getLast? = some ⟨index, .element occurs decl⟩)
      (stands : schema.StandsFor decl standing)
      (carries : field.Carries standing.name (schema.elementType standing)
        (.particle (.element occurs standing)) (path.MayBeAbsent ∨ standing.nillable = true)
        path.MayRepeat) :
      Schema.StemsFrom schema (.leaf path) field
  | groupRef {path : Path} {index : Nat} {occurs : Occurs} {name : String} {field : Field}
      (ends : path.getLast? = some ⟨index, .groupRef occurs name⟩)
      (carries : field.Carries name (.unknown name) (.particle (.groupRef occurs name))
        path.MayBeAbsent path.MayRepeat) :
      Schema.StemsFrom schema (.leaf path) field
  | wildcard {path : Path} {index : Nat} {occurs : Occurs} {field : Field}
      (ends : path.getLast? = some ⟨index, .wildcard occurs⟩)
      (carries : field.Carries "any" .anyType (.particle (.wildcard occurs)) path.MayBeAbsent
        path.MayRepeat) :
      Schema.StemsFrom schema (.leaf path) field
  | attributeDecl {decl : AttributeDecl} {field : Field}
      (carries : field.Carries decl.name (schema.resolveType decl.typeName) (.attribute decl)
        (decl.use ≠ .required) False) :
      Schema.StemsFrom schema (.attributeDecl decl) field
  | simpleContent {base : String} {field : Field}
      (carries : field.Carries "value" (schema.resolveType (some base)) .synthetic False False) :
      Schema.StemsFrom schema (.simpleContent base) field

section

variable {schema : Schema}

theorem Schema.StemsFrom.ofUnnamed {source : FieldSource} {field other : Field}
    (stems : schema.StemsFrom source field) (same : other.unnamed = field.unnamed) :
    schema.StemsFrom source other := by
  cases stems with
  | element ends stands carries => exact .element ends stands (carries.ofUnnamed same)
  | groupRef ends carries => exact .groupRef ends (carries.ofUnnamed same)
  | wildcard ends carries => exact .wildcard ends (carries.ofUnnamed same)
  | attributeDecl carries => exact .attributeDecl (carries.ofUnnamed same)
  | simpleContent carries => exact .simpleContent (carries.ofUnnamed same)

/-- The field of a leaf stems from the path that leads to the leaf. -/
theorem stemsFrom_fieldOfLeaf {path : Path} {leaf : Leaf} (ends : Leaf.AtEnd {} path leaf) :
    schema.StemsFrom (.leaf path) (schema.fieldOfLeaf leaf) := by
  obtain ⟨⟨index, particle⟩, last, same⟩ := Option.map_eq_some_iff.mp ends.particle
  have absent : leaf.path.optional = true ↔ path.MayBeAbsent := by
    rw [ends.presence, Presence.optional_along]
    simp
  have repeats : leaf.path.repeated = true ↔ path.MayRepeat := by
    rw [ends.presence, Presence.repeated_along]
    simp
  unfold Schema.fieldOfLeaf
  rw [← same]
  cases particle with
  | element occurs decl =>
    refine .element last (standsFor_resolveElement schema decl) ⟨rfl, rfl, rfl, ?_, repeats⟩
    rw [← absent]
    exact Bool.or_eq_true_iff
  | groupRef occurs name => exact .groupRef last ⟨rfl, rfl, rfl, absent, repeats⟩
  | wildcard occurs => exact .wildcard last ⟨rfl, rfl, rfl, absent, repeats⟩
  | compositor occurs kind particles => exact absurd same.symm (ends.simple occurs kind particles)

theorem stemsFrom_fieldOfAttribute (decl : AttributeDecl) :
    schema.StemsFrom (.attributeDecl decl) (schema.fieldOfAttribute decl) := by
  refine .attributeDecl ⟨rfl, rfl, rfl, ?_, ?_⟩
  · show (decl.use != .required) = true ↔ decl.use ≠ .required
    exact bne_iff_ne
  · show false = true ↔ False
    simp

/-- **The fields of a type stem from its sources**, one from each, in order. -/
theorem stemsFrom_fieldsOf (schema : Schema) (type : ComplexType) :
    List.Forall₂ schema.StemsFrom (schema.fieldSources type) (schema.fieldsOf type) := by
  have leaves := leaves_at_ends schema type.particles
  refine List.rel_append (List.rel_append ?_ ?_) ?_
  · refine List.forall₂_map_left_iff.mpr (List.forall₂_map_right_iff.mpr ?_)
    exact leaves.imp fun _ _ ends => stemsFrom_fieldOfLeaf ends
  · refine List.forall₂_map_left_iff.mpr (List.forall₂_map_right_iff.mpr ?_)
    exact List.forall₂_same.mpr fun decl _ => stemsFrom_fieldOfAttribute decl
  · refine List.forall₂_map_left_iff.mpr (List.forall₂_map_right_iff.mpr ?_)
    refine List.forall₂_same.mpr fun base _ => .simpleContent ⟨rfl, rfl, rfl, ?_, ?_⟩
    · show false = true ↔ False
      simp
    · show false = true ↔ False
      simp

/-- **The fields of a class stem from the sources of its type**, in order. -/
theorem stemsFrom_classOf (schema : Schema) (name : String) (type : ComplexType) :
    List.Forall₂ schema.StemsFrom (schema.fieldSources type) (schema.classOf name type).fields := by
  have unnamed : List.Forall₂ schema.StemsFrom (schema.fieldSources type)
      ((schema.classOf name type).fields.map Field.unnamed) := by
    rw [classOf_fields]
    refine List.forall₂_map_right_iff.mpr ((stemsFrom_fieldsOf schema type).imp ?_)
    exact fun source field stems => stems.ofUnnamed rfl
  exact (List.forall₂_map_right_iff.mp unnamed).imp fun source field stems => stems.ofUnnamed rfl

/-- Every field of a class stems from a source of its type. -/
theorem exists_source_of_mem {schema : Schema} {name : String} {type : ComplexType} {field : Field}
    (member : field ∈ (schema.classOf name type).fields) :
    ∃ source ∈ schema.fieldSources type, schema.StemsFrom source field := by
  obtain ⟨length, stems⟩ := List.forall₂_iff_get.mp (stemsFrom_classOf schema name type)
  obtain ⟨⟨index, bound⟩, rfl⟩ := List.get_of_mem member
  exact ⟨_, List.get_mem _ ⟨index, length ▸ bound⟩, stems index _ bound⟩

end

/-- **The fields of a class are those of its sources, one by one and in order.** The sources in the
content are all the paths that there are to its leaves, each once and in document order. Every path
has the field of its leaf, every attribute that is not prohibited and the simple content have one
more, and there are no other fields. -/
theorem fields_correspond (schema : Schema) (index : Nat) (name : String) (type : ComplexType)
    (entry : schema.classTypes[index]? = some (name, type)) :
    ∃ c, (Model.ofSchema schema).classes[index]? = some c ∧ c.schemaName = name ∧
      (∀ path, path ∈ schema.leafPaths type.particles ↔ schema.LeafPath type.particles path) ∧
      (schema.leafPaths type.particles).Pairwise Path.Before ∧
      List.Forall₂ schema.StemsFrom (schema.fieldSources type) c.fields := by
  have unnamed := classOf_fields schema name type
  refine ⟨schema.classOf name type, ?_, classOf_schemaName schema name type,
    mem_leafPaths_iff schema type.particles, leafPaths_sorted schema type.particles, ?_⟩
  · rw [classes_ofSchema, List.getElem?_map, entry]
    rfl
  · have stems : List.Forall₂ schema.StemsFrom (schema.fieldSources type)
        ((schema.classOf name type).fields.map Field.unnamed) := by
      rw [unnamed]
      refine List.forall₂_map_right_iff.mpr ((stemsFrom_fieldsOf schema type).imp ?_)
      intro source field stems
      exact stems.ofUnnamed rfl
    refine (List.forall₂_map_right_iff.mp stems).imp fun source field stems => ?_
    exact stems.ofUnnamed rfl

/-- A link of a chain refers to the next one through its group, which so contains itself. -/
def chainSchema : Schema where
  complexTypes := [{
    name := "chain"
    particles := [.groupRef {} "links", .groupRef {} "ends"]
    attributes := [
      { name := "length", use := .required },
      { name := "weight", use := .prohibited }] }]
  groups := [{
    name := "links"
    particles := [.element {} { name := "link", isReference := true },
      .groupRef { min := 0 } "links"] }]
  elements := [
    { decl := { name := "link", typeName := some "xs:string", nillable := true } },
    { decl := { name := "link", typeName := some "xs:int" } }]

/-- The chain is followed for sixteen links. The seventeenth reference is a leaf, and so is the one
to a group that does not exist; of the attributes there is one. -/
theorem fields_correspond_chainSchema :
    ∃ type, chainSchema.classTypes[0]? = some ("chain", type) ∧
      (chainSchema.leafPaths type.particles).length = 18 ∧
      (chainSchema.fieldSources type).length = 19 ∧
      ∃ c, (Model.ofSchema chainSchema).classes[0]? = some c ∧ c.schemaName = "chain" ∧
        (∀ path, path ∈ chainSchema.leafPaths type.particles ↔
          chainSchema.LeafPath type.particles path) ∧
        (chainSchema.leafPaths type.particles).Pairwise Path.Before ∧
        List.Forall₂ chainSchema.StemsFrom (chainSchema.fieldSources type) c.fields :=
  ⟨_, rfl, by decide +kernel, by decide +kernel, fields_correspond chainSchema 0 "chain" _ rfl⟩

end SchemaBinding
