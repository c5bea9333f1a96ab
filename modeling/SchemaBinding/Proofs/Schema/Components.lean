/-
**The components of a schema that has been read.**

Reading adds the components that it completes one after another, and does nothing else to the schema
(`Place.MadeBy`). So what holds after any additions holds of a schema that has been read: the maps
that the additions make lead to what the schema finds by a search (`serves_of_ofText`). More holds
of it, because the names in it are different: a look-up finds the one component of its name
(`Schema.NamesDistinct.findsComponents`), and no addition has hidden another. A tag that asks for a
name of a component that has been read ends the reading, before the content of its element is looked
at (`ofTag?_of_redefines`).
-/

import SchemaBinding.Proofs.Document.DistinctNames
import SchemaBinding.Proofs.Keyed
import SchemaBinding.Proofs.Schema.Additions

namespace SchemaBinding

open Markup (Event EventStream Tag)

deriving instance DecidableEq for Tag, Event

/-! ### Reading adds components -/

/-- What joins the schema at the end of a component. -/
def Component.addition : Component → Addition
  | .simpleType _ type => .simpleType type
  | .complexType _ _ type content _ => .complexType (withContent type content)
  | .group name content => .group { name, particles := content.particles }
  | .element owner => .element owner

theorem Component.addTo_eq_add (component : Component) (schema : Schema) :
    component.addTo schema = schema.add component.addition := by
  cases component <;> rfl

theorem Component.targetNamespace_addTo (component : Component) (schema : Schema) :
    (component.addTo schema).targetNamespace = schema.targetNamespace := by
  cases component <;> rfl

/-- **The schema at a place is made by the components** that have been read, each of which has
joined it by one addition. -/
def Place.MadeBy (components : List Component) : Place → Prop
  | .beforeSchema => components = []
  | .inSchema schema _ =>
    schema = Schema.addAll { targetNamespace := schema.targetNamespace }
      (components.map Component.addition)

/-- A component that is complete makes the schema that it joins. -/
theorem Place.madeBy_addTo {components : List Component} {schema : Schema} (component : Component)
    (made : (Place.inSchema schema none).MadeBy components) :
    (Place.inSchema (component.addTo schema) none).MadeBy (components ++ [component]) := by
  have before : schema = Schema.addAll { targetNamespace := schema.targetNamespace }
      (components.map Component.addition) := made
  show component.addTo schema =
    Schema.addAll { targetNamespace := (component.addTo schema).targetNamespace }
      ((components ++ [component]).map Component.addition)
  rw [component.targetNamespace_addTo, List.map_append, List.map_singleton, Schema.addAll_concat,
    ← before, component.addTo_eq_add]

/-- **Every event keeps this up**: it adds the component that it completes, or nothing. -/
theorem Place.Moves.madeBy {place next : Place} {components : List Component}
    {found : Option Component} (moves : place.Moves found next) (made : place.MadeBy components) :
    next.MadeBy (components ++ found.toList) := by
  cases moves with
  | stays =>
    rw [Option.toList_none, List.append_nil]
    exact made
  | enters targetNamespace =>
    rw [show components = [] from made]
    rfl
  | begins | goesOn =>
    rw [Option.toList_none, List.append_nil]
    exact made
  | completes => exact Place.madeBy_addTo _ made
  | defines => exact Place.madeBy_addTo _ made

/-- **The components that are read from a text make its schema**, and the maps that they make lead
to what is found in it. -/
theorem serves_of_ofText {text : String} {schema : Schema}
    (accepted : Schema.ofText text = .ok schema) :
    (IndexedSchema.ofAdditions schema.targetNamespace
      ((componentsRead text).map Component.addition)).Serves schema := by
  have made : (Place.inSchema schema none).MadeBy (componentsRead text) :=
    kept_of_ofText Place.Moves.madeBy rfl accepted
  have serves := (IndexedSchema.inStep_ofAdditions schema.targetNamespace
    ((componentsRead text).map Component.addition)).serves
  rwa [IndexedSchema.schema_ofAdditions, ← made] at serves

/-! ### Different names -/

/-- **Look-ups find the components of a schema**, each by its name and nothing else, and a type is
known if one of the look-ups of types finds it. -/
structure Schema.FindsComponents (schema : Schema) : Prop where
  simpleType : ∀ name type,
    schema.simpleType? name = some type ↔ type ∈ schema.simpleTypes ∧ type.name = name
  complexType : ∀ name type,
    schema.complexType? name = some type ↔ type ∈ schema.complexTypes ∧ type.name = name
  group : ∀ name group,
    schema.group? name = some group ↔ group ∈ schema.groups ∧ group.name = name
  hasType : ∀ name, schema.hasType name = true ↔
    (schema.simpleType? name).isSome ∨ (schema.complexType? name).isSome

theorem Schema.NamesDistinct.findsComponents {schema : Schema} (names : schema.NamesDistinct) :
    schema.FindsComponents where
  simpleType _ _ := reverse_find?_key_eq_some_iff (List.nodup_append.mp (names .type)).1
  complexType _ _ := reverse_find?_key_eq_some_iff (List.nodup_append.mp (names .type)).2.1
  group _ _ := find?_key_eq_some_iff (names .group)
  hasType name := by rw [schema.hasType_eq, Bool.or_eq_true]

/-! ### Names that are taken -/

/-- The kind of components whose names a tag in a schema gives, if it gives one. -/
def DefinitionKind.ofTag? (tag : Tag) : Option DefinitionKind :=
  match tag.localName with
  | "simpleType" => some .type
  | "complexType" => some .type
  | "group" => some .group
  | _ => none

/-- **A tag gives a name that a component of the kind has already.** -/
structure Schema.Redefines (schema : Schema) (tag : Tag) (kind : DefinitionKind) (name : String) :
    Prop where
  ofKind : DefinitionKind.ofTag? tag = some kind
  named : SchemaTag.required tag tag.localName "name" = .ok name
  taken : name ∈ schema.definedNames kind

theorem ofTag?_of_redefines {schema : Schema} {tag : Tag} {kind : DefinitionKind} {name : String}
    (again : schema.Redefines tag kind name) :
    Component.ofTag? schema tag = .error (.duplicate kind name) := by
  obtain ⟨ofKind, named, taken⟩ := again
  unfold DefinitionKind.ofTag? at ofKind
  unfold Component.ofTag?
  split at ofKind
  · rename_i localName
    obtain rfl := Option.some.inj ofKind
    rw [localName] at named ⊢
    rw [named]
    exact if_pos (Schema.mem_definedNames_type.mp taken)
  · rename_i localName
    obtain rfl := Option.some.inj ofKind
    rw [localName] at named ⊢
    rw [named]
    exact if_pos (Schema.mem_definedNames_type.mp taken)
  · rename_i localName
    obtain rfl := Option.some.inj ofKind
    rw [localName] at named ⊢
    rw [named]
    exact if_pos (Schema.mem_definedNames_group.mp taken)
  · exact absurd ofKind.symm (Option.some_ne_none kind)

/-- **Reading a text reaches a tag between the components of a schema**: a start tag or an empty
element, before which the events have made the schema and left no component open. -/
def Reaches (text : String) (schema : Schema) (tag : Tag) : Prop :=
  ∃ before event after, (EventStream.ofText text).events = before ++ event :: after ∧
    (event = .start tag ∨ event = .empty tag) ∧
    ReadingState.run {} before = .ok { place := .inSchema schema none }

/-- No schema tag defines a component. -/
theorem localName_ne_schema_of_ofTag? {tag : Tag} {kind : DefinitionKind}
    (ofKind : DefinitionKind.ofTag? tag = some kind) : tag.localName ≠ "schema" := by
  intro localName
  unfold DefinitionKind.ofTag? at ofKind
  rw [localName] at ofKind
  exact absurd ofKind.symm (Option.some_ne_none kind)

/-- **A name that is taken ends the reading**, whatever follows. -/
theorem ofText_of_redefines {text : String} {schema : Schema} {tag : Tag} {kind : DefinitionKind}
    {name : String} (reached : Reaches text schema tag) (again : schema.Redefines tag kind name) :
    Schema.ofText text = .error (.duplicate kind name) := by
  obtain ⟨before, event, after, events, form, read⟩ := reached
  have outside := localName_ne_schema_of_ofTag? again.ofKind
  have refused : ReadingState.step { place := .inSchema schema none } event =
      .error (.duplicate kind name) := by
    obtain rfl | rfl := form
    · show ReadingState.start (.inSchema schema none) tag = _
      unfold ReadingState.start
      dsimp only
      rw [if_neg outside, ofTag?_of_redefines again]
      rfl
    · show ReadingState.empty (.inSchema schema none) tag = _
      unfold ReadingState.empty
      dsimp only
      rw [if_neg outside, ofTag?_of_redefines again]
      rfl
  unfold Schema.ofText Schema.ofStream
  rw [events, ReadingState.run_append, read]
  show ((ReadingState.run _ (event :: after)) >>= _) = _
  rw [ReadingState.run_cons, refused]
  rfl

/-- **Components are found by their names.** After any additions a look-up finds the last type or
the first group of a name, through maps whose places are all in range. In every schema that is read
from a text the names of types are different, and so are those of groups; the components that are
read make the schema when they are added one after another, and the maps that come with it serve for
all look-ups; every look-up finds the one component of its name. If reading reaches a type or a
group whose name is taken, it fails for that name. -/
theorem components_found :
    (∀ targetNamespace additions,
      (IndexedSchema.ofAdditions targetNamespace additions).Answers additions) ∧
    (∀ text schema, Schema.ofText text = .ok schema →
      schema.NamesDistinct ∧
        (IndexedSchema.ofAdditions schema.targetNamespace
          ((componentsRead text).map Component.addition)).Serves schema ∧
        schema.FindsComponents) ∧
    (∀ text schema tag kind name, Reaches text schema tag → schema.Redefines tag kind name →
      Schema.ofText text = .error (.duplicate kind name)) := by
  refine ⟨answers_ofAdditions, fun text schema accepted => ?_, fun text schema tag kind name => ?_⟩
  · have names := namesDistinct_of_ofText accepted
    exact ⟨names, serves_of_ofText accepted, names.findsComponents⟩
  · exact ofText_of_redefines

/-- Two shelves are added, of which the last is found. In a text with one shelf it is found, also
through the map of the only component that is read, and reading stops at a second one, although the
first is a complex type and the second a simple one. -/
theorem components_found_shelf :
    let one := "<schema><complexType name='shelf'/></schema>"
    let two := "<schema><complexType name='shelf'/><simpleType name='shelf'>"
    let narrow : ComplexType := { name := "shelf" }
    let wide : ComplexType := { name := "shelf", simpleContent := some "xs:int" }
    (IndexedSchema.ofAdditions none [.complexType narrow, .complexType wide]).complexType? "shelf" =
        some wide ∧
      (∃ schema, Schema.ofText one = .ok schema ∧ schema.NamesDistinct ∧
        (componentsRead one).length = 1 ∧
        (IndexedSchema.ofAdditions schema.targetNamespace
          ((componentsRead one).map Component.addition)).hasType "shelf" = true) ∧
      (∃ schema tag, Reaches two schema tag ∧ schema.Redefines tag .type "shelf") ∧
      Schema.ofText two = .error (.duplicate .type "shelf") := by
  intro one two narrow wide
  have last : LastAdded .complexType ComplexType.name [.complexType narrow, .complexType wide]
      "shelf" wide :=
    ⟨rfl, [.complexType narrow], [], rfl, fun later member => absurd member List.not_mem_nil⟩
  have found := (((components_found.1 none _).complexType "shelf").2 wide).mpr last
  have known : (Schema.ofText one).toOption.map (·.hasType "shelf") = some true := by
    decide +kernel
  have single : (componentsRead one).length = 1 := by decide +kernel
  obtain ⟨schema, kept, known⟩ := Option.map_eq_some_iff.mp known
  have accepted := ok_of_toOption kept
  obtain ⟨names, serves, -⟩ := components_found.2.1 one schema accepted
  have reached : Reaches two { complexTypes := [narrow] }
      ⟨"simpleType", .ok [("name", "shelf")]⟩ := by
    refine ⟨[.start ⟨"schema", .ok []⟩, .empty ⟨"complexType", .ok [("name", "shelf")]⟩], _, [],
      ?_, .inl rfl, rfl⟩
    decide +kernel
  have again : Schema.Redefines { complexTypes := [narrow] }
      ⟨"simpleType", .ok [("name", "shelf")]⟩ .type "shelf" := ⟨rfl, rfl, by decide⟩
  exact ⟨found, ⟨schema, accepted, names, single, (serves.hasType "shelf").trans known⟩,
    ⟨_, _, reached, again⟩, components_found.2.2 two _ _ _ _ reached again⟩

end SchemaBinding
