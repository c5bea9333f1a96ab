/-
**The names of the fields of a class.**

Fields are added to a class one after another, and each takes its own name, or the first numbered
one that is free (`distinctNames`). The own name of a field is derived from the name of its
component, so nothing but these names matters: neither the types of fields nor what a reference to
an element refers to. The names that result are different from each other
(`nodup_memberNames_ofSchema`), and a field that does not have its own name has the least number
that no field before it stands in the way of (`fields_named_in_order`).
-/

import SchemaBinding.Proofs.Model.Lookups
import SchemaBinding.Proofs.Naming.FreshNames

namespace SchemaBinding

/-- **The names that are given one after another** for the ones that are asked for, where some are
taken. -/
def distinctNames (taken : List String) : List String → List String
  | [] => []
  | name :: rest =>
    freshName taken name :: distinctNames (taken ++ [freshName taken name]) rest

/-- Names that are given one after another differ from each other and from those that are taken. -/
theorem nodup_append_distinctNames {taken : List String} (distinct : taken.Nodup)
    (names : List String) : (taken ++ distinctNames taken names).Nodup := by
  induction names generalizing taken with
  | nil => rwa [distinctNames, List.append_nil]
  | cons name rest ih =>
    have extended : (taken ++ [freshName taken name]).Nodup :=
      List.nodup_append.mpr ⟨distinct, List.nodup_singleton _, fun old member new fresh same => by
        rw [List.mem_singleton.mp fresh] at same
        exact freshName_notMem taken name (same ▸ member)⟩
    rw [distinctNames, List.append_cons]
    exact ih extended

/-- Each name is fresh among those that are taken and those that have been given before it. -/
theorem getElem?_distinctNames (taken names : List String) (index : Nat) :
    (distinctNames taken names)[index]? =
      names[index]?.map (freshName (taken ++ (distinctNames taken names).take index)) := by
  induction names generalizing taken index with
  | nil => rfl
  | cons name rest ih =>
    cases index with
    | zero => simp [distinctNames]
    | succ index =>
      rw [distinctNames, List.getElem?_cons_succ, List.getElem?_cons_succ, List.take_succ_cons, ih,
        List.append_assoc]
      rfl

theorem fieldNames_foldl_addField {c : DataClass} (plain : c.statics = []) (fields : List Field) :
    (fields.foldl DataClass.addField c).fields.map (·.name) =
      c.fields.map (·.name) ++ distinctNames (c.fields.map (·.name)) (fields.map (·.name)) := by
  induction fields generalizing c with
  | nil => exact (List.append_nil _).symm
  | cons field rest ih =>
    have taken : c.memberNames = c.fields.map (·.name) := by
      rw [DataClass.memberNames, plain]
      exact List.append_nil _
    have added : (c.addField field).fields.map (·.name) =
        c.fields.map (·.name) ++ [freshName (c.fields.map (·.name)) field.name] := by
      simp only [DataClass.addField, List.map_append, List.map_cons, List.map_nil, taken]
    rw [List.foldl_cons, ih (c := c.addField field) plain, added, List.append_assoc]
    rfl

/-- **The names of the fields of a class are given one after another**, in the order of the fields
of its type. -/
theorem classOf_fieldNames (schema : Schema) (name : String) (type : ComplexType) :
    (schema.classOf name type).fields.map (·.name) =
      distinctNames [] ((schema.fieldsOf type).map (·.name)) :=
  fieldNames_foldl_addField rfl (schema.fieldsOf type)

/-- The name of the component that the field of a leaf is named after. -/
def Leaf.componentName (leaf : Leaf) : String :=
  match leaf.particle with
  | .element _ decl => decl.name
  | .groupRef _ name => name
  | _ => "any"

/-- What an element refers to has the name of the element. -/
theorem Schema.StandsFor.name_eq {schema : Schema} {decl standing : ElementDecl}
    (stands : schema.StandsFor decl standing) : standing.name = decl.name := by
  cases stands with
  | itself | dangling => rfl
  | referred _ _ same _ => exact same

theorem name_fieldOfLeaf (schema : Schema) (leaf : Leaf) :
    (schema.fieldOfLeaf leaf).name = fieldName leaf.componentName := by
  obtain ⟨particle, path⟩ := leaf
  cases particle with
  | element occurs decl =>
    simp only [Schema.fieldOfLeaf, Leaf.componentName, Field.ofSchemaName,
      (standsFor_resolveElement schema decl).name_eq]
  | groupRef | compositor | wildcard =>
    simp only [Schema.fieldOfLeaf, Leaf.componentName, Field.ofSchemaName]

/-- **The own names of the fields of a type**, each derived from the name of a component. -/
theorem fieldsOf_names (schema : Schema) (type : ComplexType) :
    (schema.fieldsOf type).map (·.name) =
      ((schema.leaves type.particles).map (·.componentName) ++
        (type.attributes.filter (·.use != .prohibited)).map (·.name) ++
          type.simpleContent.toList.map fun _ => "value").map fieldName := by
  simp only [Schema.fieldsOf, List.map_append, List.map_map, Function.comp_def, name_fieldOfLeaf,
    Schema.fieldOfAttribute, Field.ofSchemaName]

/-- A field that has not been added to a class has the name that its component gives it. -/
theorem name_of_mem_fieldsOf {schema : Schema} {type : ComplexType} {field : Field}
    (member : field ∈ schema.fieldsOf type) : field.name = fieldName field.schemaName := by
  simp only [Schema.fieldsOf, List.mem_append, List.mem_map] at member
  rcases member with (⟨leaf, -, rfl⟩ | ⟨decl, -, rfl⟩) | ⟨base, -, rfl⟩
  · unfold Schema.fieldOfLeaf
    split <;> simp only [Field.ofSchemaName]
  · simp only [Schema.fieldOfAttribute, Field.ofSchemaName]
  · simp only [Field.ofSchemaName]

/-- A class shows the components that the fields of its type are named after. -/
theorem classOf_schemaNames (schema : Schema) (name : String) (type : ComplexType) :
    (schema.classOf name type).fields.map Field.schemaName =
      (schema.fieldsOf type).map Field.schemaName := by
  have components := congrArg (List.map Field.schemaName) (classOf_fields schema name type)
  rw [List.map_map, List.map_map] at components
  exact components

section

variable {schema : Schema} {c : DataClass}

/-- **The fields of a class take the names of their components**, one after another. -/
theorem fieldNames_ofSchema (here : c ∈ (Model.ofSchema schema).classes) :
    c.fields.map (·.name) = distinctNames [] ((c.fields.map Field.schemaName).map fieldName) := by
  rw [classes_ofSchema] at here
  obtain ⟨⟨name, type⟩, -, rfl⟩ := List.mem_map.mp here
  have own : (schema.fieldsOf type).map (·.name) =
      ((schema.fieldsOf type).map Field.schemaName).map fieldName := by
    rw [List.map_map]
    refine List.map_congr_left fun field member => ?_
    rw [Function.comp_apply, name_of_mem_fieldsOf member]
  rw [classOf_fieldNames, classOf_schemaNames, own]

/-- A field has the name of its component, or the first numbered one that no field before it
has. -/
theorem name_of_field_at (here : c ∈ (Model.ofSchema schema).classes) {index : Nat} {field : Field}
    (at_index : c.fields[index]? = some field) :
    field.name = freshName ((c.fields.map (·.name)).take index) (fieldName field.schemaName) := by
  have names := fieldNames_ofSchema here
  have named := getElem?_distinctNames [] ((c.fields.map Field.schemaName).map fieldName) index
  rw [← names, List.getElem?_map, List.getElem?_map, List.getElem?_map, at_index,
    List.nil_append] at named
  exact Option.some.inj named

/-- **The members of a class have different names.** -/
theorem nodup_memberNames_ofSchema (here : c ∈ (Model.ofSchema schema).classes) :
    c.memberNames.Nodup := by
  have distinct := nodup_append_distinctNames List.nodup_nil
    ((c.fields.map Field.schemaName).map fieldName)
  rw [← fieldNames_ofSchema here] at distinct
  rwa [DataClass.memberNames, statics_of_mem_ofSchema here, List.map_nil, List.append_nil]

/-- **The names of the fields of a class differ**, and are chosen one after another. A field has the
name that its component gives it, if no field before it has that name. Otherwise it has that name
with an underscore and the least number from two on that gives a name which no field before it has;
there always is one. -/
theorem fields_named_in_order (here : c ∈ (Model.ofSchema schema).classes) :
    (c.fields.map (·.name)).Nodup ∧
      ∀ index field, c.fields[index]? = some field →
        let own := fieldName field.schemaName
        let taken := (c.fields.take index).map (·.name)
        (own ∉ taken → field.name = own) ∧
          (own ∈ taken →
            ∃ number,
              IsLeast {number : Nat | 2 ≤ number ∧ own ++ "_" ++ toString number ∉ taken} number ∧
                field.name = own ++ "_" ++ toString number) := by
  refine ⟨(nodup_memberNames_ofSchema here).of_append_left, ?_⟩
  intro index field at_index own taken
  have named : field.name = freshName taken own := by
    rw [name_of_field_at here at_index, ← List.map_take]
  constructor
  · intro free
    rw [named, freshName_of_notMem free]
  · intro occupied
    obtain ⟨number, least, same⟩ := freshName_of_mem occupied
    exact ⟨number, least, named.trans same⟩

end

/-- A trail has two marks whose names differ in their separators only, one of them through a group,
and an attribute with the name that the second mark is given. -/
def trailSchema : Schema where
  complexTypes := [{
    name := "trail"
    particles := [.element {} { name := "mark-a" }, .groupRef {} "ends"]
    attributes := [{ name := "mark_a_2" }] }]
  groups := [{ name := "ends", particles := [.element {} { name := "Mark A" }] }]

/-- The attribute of a trail finds its own name taken by a mark that was given a number. -/
theorem fields_named_in_order_trailSchema :
    ∃ c ∈ (Model.ofSchema trailSchema).classes,
      c.fields.map (·.name) = ["mark_a", "mark_a_2", "mark_a_2_2"] ∧
        (c.fields.map (·.name)).Nodup ∧
        ∃ field, c.fields[2]? = some field ∧
          fieldName field.schemaName ∈ (c.fields.take 2).map (·.name) ∧
          ∃ number,
            IsLeast {number : Nat | 2 ≤ number ∧ fieldName field.schemaName ++ "_" ++
              toString number ∉ (c.fields.take 2).map (·.name)} number ∧
            field.name = fieldName field.schemaName ++ "_" ++ toString number := by
  have shown : ((Model.ofSchema trailSchema).classes[0]?.map fun c =>
      (c.fields.map (·.name), c.fields[2]?.map Field.schemaName)) =
        some (["mark_a", "mark_a_2", "mark_a_2_2"], some "mark_a_2") := by decide +kernel
  obtain ⟨c, found, parts⟩ := Option.map_eq_some_iff.mp shown
  obtain ⟨names, third⟩ : _ ∧ _ := by simpa only [Prod.mk.injEq] using parts
  obtain ⟨field, at_index, component⟩ := Option.map_eq_some_iff.mp third
  have here := List.mem_of_getElem? found
  have occupied : fieldName field.schemaName ∈ (c.fields.take 2).map (·.name) := by
    rw [List.map_take, names, component]
    decide +kernel
  obtain ⟨distinct, named⟩ := fields_named_in_order here
  exact ⟨c, here, names, distinct, field, at_index, occupied, (named 2 field at_index).2 occupied⟩

/-- Schemas that find the same groups give the fields of a class the same names. -/
theorem classOf_fieldNames_eq {schema other : Schema} (alike : schema.FindsAs other)
    (name : String) (type : ComplexType) :
    (schema.classOf name type).fields.map (·.name) =
      (other.classOf name type).fields.map (·.name) := by
  rw [classOf_fieldNames, classOf_fieldNames, fieldsOf_names, fieldsOf_names, leaves_eq alike]

end SchemaBinding
