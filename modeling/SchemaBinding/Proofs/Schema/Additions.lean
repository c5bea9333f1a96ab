/-
**Look-ups after additions.**

A schema grows by additions (`Addition`), and each list of it holds what was added of its kind, in
order (`listed_addAll`). So the look-up of a type finds what was added last under its name
(`LastAdded`), that of a group what was added first (`FirstAdded`).

Types need not be searched for. Each addition of a type can note where it stands in its list, under
its name (`IndexedSchema`). The notes stay in step with the lists (`Leads`): every noted place is a
place of the list, and what stands there is what a search from the end finds. The two kinds of types
have maps of their own, and a type exists if one of the maps knows its name.
-/

import Mathlib.Data.List.Basic
import SchemaBinding.Schema.Basic

namespace SchemaBinding

/-- One component that is added to a schema. -/
inductive Addition
  | simpleType (type : SimpleType)
  | complexType (type : ComplexType)
  | group (group : ModelGroup)
  | element (element : TopLevelElement)

namespace Addition

def simpleType? : Addition → Option SimpleType
  | simpleType type => some type
  | _ => none

def complexType? : Addition → Option ComplexType
  | complexType type => some type
  | _ => none

def group? : Addition → Option ModelGroup
  | group added => some added
  | _ => none

theorem simpleType?_eq_some_iff {addition : Addition} {type : SimpleType} :
    addition.simpleType? = some type ↔ addition = simpleType type := by
  cases addition <;> simp [simpleType?]

theorem complexType?_eq_some_iff {addition : Addition} {type : ComplexType} :
    addition.complexType? = some type ↔ addition = complexType type := by
  cases addition <;> simp [complexType?]

theorem group?_eq_some_iff {addition : Addition} {added : ModelGroup} :
    addition.group? = some added ↔ addition = group added := by
  cases addition <;> simp [group?]

end Addition

namespace Schema

def add (schema : Schema) : Addition → Schema
  | .simpleType type => schema.addSimpleType type
  | .complexType type => schema.addComplexType type
  | .group group => schema.addGroup group
  | .element element => schema.addElement element

def addAll (schema : Schema) (additions : List Addition) : Schema := additions.foldl add schema

theorem addAll_cons (schema : Schema) (addition : Addition) (additions : List Addition) :
    schema.addAll (addition :: additions) = (schema.add addition).addAll additions := rfl

theorem addAll_concat (schema : Schema) (additions : List Addition) (addition : Addition) :
    schema.addAll (additions ++ [addition]) = (schema.addAll additions).add addition :=
  List.foldl_concat ..

/-- A list of the schema that grows by what each addition has of its kind, if anything. -/
theorem listed_addAll {α : Type} {listed : Schema → List α} {pick : Addition → Option α}
    (step : ∀ schema addition, listed (schema.add addition) = listed schema ++ (pick addition).toList)
    (schema : Schema) (additions : List Addition) :
    listed (schema.addAll additions) = listed schema ++ additions.filterMap pick := by
  induction additions generalizing schema with
  | nil => exact (List.append_nil _).symm
  | cons addition rest ih =>
    rw [addAll_cons, ih, step, List.append_assoc, List.filterMap_cons]
    cases pick addition <;> rfl

variable (schema : Schema) (additions : List Addition)

theorem simpleTypes_addAll :
    (schema.addAll additions).simpleTypes =
      schema.simpleTypes ++ additions.filterMap Addition.simpleType? := by
  refine listed_addAll (fun schema addition => ?_) schema additions
  cases addition <;> simp [add, addSimpleType, addComplexType, addGroup, addElement,
    Addition.simpleType?]

theorem complexTypes_addAll :
    (schema.addAll additions).complexTypes =
      schema.complexTypes ++ additions.filterMap Addition.complexType? := by
  refine listed_addAll (fun schema addition => ?_) schema additions
  cases addition <;> simp [add, addSimpleType, addComplexType, addGroup, addElement,
    Addition.complexType?]

theorem groups_addAll :
    (schema.addAll additions).groups = schema.groups ++ additions.filterMap Addition.group? := by
  refine listed_addAll (fun schema addition => ?_) schema additions
  cases addition <;> simp [add, addSimpleType, addComplexType, addGroup, addElement,
    Addition.group?]

end Schema

/-! ### First and last of a name -/

section

variable {α : Type} {make : α → Addition} {pick : Addition → Option α} {nameOf : α → String}
  {additions : List Addition} {name : String} {item : α}

/-- **The first of its kind that is added under a name.** -/
def FirstAdded (make : α → Addition) (nameOf : α → String) (additions : List Addition)
    (name : String) (item : α) : Prop :=
  nameOf item = name ∧ ∃ before after, additions = before ++ make item :: after ∧
    ∀ earlier, make earlier ∈ before → nameOf earlier ≠ name

/-- **The last of its kind that is added under a name.** -/
def LastAdded (make : α → Addition) (nameOf : α → String) (additions : List Addition)
    (name : String) (item : α) : Prop :=
  nameOf item = name ∧ ∃ before after, additions = before ++ make item :: after ∧
    ∀ later, make later ∈ after → nameOf later ≠ name

theorem firstAdded_reverse_iff :
    FirstAdded make nameOf additions.reverse name item ↔
      LastAdded make nameOf additions name item := by
  refine and_congr_right fun named => ⟨?_, ?_⟩
  · rintro ⟨before, after, split, others⟩
    refine ⟨after.reverse, before.reverse, ?_, fun later member => ?_⟩
    · rw [← List.reverse_reverse additions, split]
      simp
    · exact others later (List.mem_reverse.mp member)
  · rintro ⟨before, after, rfl, others⟩
    refine ⟨after.reverse, before.reverse, by simp, fun earlier member => ?_⟩
    exact others earlier (List.mem_reverse.mp member)

theorem find?_filterMap_eq_some_iff (picks : ∀ {addition item}, pick addition = some item ↔
    addition = make item) :
    (additions.filterMap pick).find? (nameOf · == name) = some item ↔
      FirstAdded make nameOf additions name item := by
  rw [List.find?_filterMap, Option.bind_eq_some_iff]
  constructor
  · rintro ⟨addition, found, picked⟩
    obtain ⟨named, before, after, split, others⟩ := List.find?_eq_some_iff_append.mp found
    rw [picked, Option.any_some, beq_iff_eq] at named
    obtain rfl := picks.mp picked
    refine ⟨named, before, after, split, fun earlier member same => ?_⟩
    have other := others _ member
    rw [picks.mpr rfl, Option.any_some, same, beq_self_eq_true] at other
    exact Bool.false_ne_true other
  · rintro ⟨named, before, after, split, others⟩
    refine ⟨make item, List.find?_eq_some_iff_append.mpr ⟨?_, before, after, split, ?_⟩,
      picks.mpr rfl⟩
    · rw [picks.mpr rfl, Option.any_some, named, beq_self_eq_true]
    · intro addition member
      cases picked : pick addition with
      | none => rfl
      | some earlier =>
        obtain rfl := picks.mp picked
        rw [Option.any_some, beq_false_of_ne (others earlier member)]
        rfl

theorem reverse_find?_filterMap_eq_some_iff (picks : ∀ {addition item}, pick addition = some item ↔
    addition = make item) :
    (additions.filterMap pick).reverse.find? (nameOf · == name) = some item ↔
      LastAdded make nameOf additions name item := by
  rw [← List.filterMap_reverse, find?_filterMap_eq_some_iff picks, firstAdded_reverse_iff]

end

/-! ### Places noted by name -/

/-- A map that leads from names to places in a list. -/
abbrev Places := Std.HashMap String Nat

/-- **A map leads to the last item of each name**: what it notes are places of the list, and what
stands there is what a search from the end finds. -/
structure Leads {α : Type} (nameOf : α → String) (places : Places) (items : List α) : Prop where
  inRange : ∀ (name : String) (place : Nat), places[name]? = some place → place < items.length
  found : ∀ name : String, (places[name]?).bind (items[·]?) = items.reverse.find? (nameOf · == name)

namespace Leads

variable {α : Type} {nameOf : α → String} {places : Places} {items : List α}

theorem nil : Leads nameOf ∅ [] where
  inRange name place noted := by simp at noted
  found name := by simp

/-- **The map stays in step** when an item joins the list and its place is noted. -/
theorem push (leads : Leads nameOf places items) (item : α) :
    Leads nameOf (places.insert (nameOf item) items.length) (items ++ [item]) where
  inRange name place noted := by
    rw [List.length_append, List.length_singleton]
    rw [Std.HashMap.getElem?_insert] at noted
    split at noted
    · obtain rfl := Option.some.inj noted
      exact Nat.lt_succ_self _
    · exact Nat.lt_succ_of_lt (leads.inRange name place noted)
  found name := by
    rw [Std.HashMap.getElem?_insert, List.reverse_append, List.reverse_singleton,
      List.singleton_append, List.find?_cons]
    split
    · simp [*]
    · rename_i other
      rw [Bool.not_eq_true] at other
      rw [other, ← leads.found name]
      -- What was noted before lies in front of the new item.
      cases noted : places[name]? with
      | none => rfl
      | some place => exact List.getElem?_append_left (leads.inRange name place noted)

/-- A name has a place if an item has it. -/
theorem contains_eq (leads : Leads nameOf places items) (name : String) :
    places.contains name = items.any (nameOf · == name) := by
  have found := congrArg Option.isSome (leads.found name)
  rw [List.isSome_find?, List.any_reverse] at found
  rw [Std.HashMap.contains_eq_isSome_getElem?, ← found]
  cases noted : places[name]? with
  | none => rfl
  | some place =>
    rw [Option.bind_some, List.getElem?_eq_getElem (leads.inRange name place noted)]
    rfl

end Leads

/-- **A schema with its maps**, which lead from the names of types to their places. -/
structure IndexedSchema where
  schema : Schema
  simplePlaces : Places := ∅
  complexPlaces : Places := ∅

namespace IndexedSchema

def new (targetNamespace : Option String) : IndexedSchema := { schema := { targetNamespace } }

/-- Adds a component, and notes its place if it is a type. -/
def add (indexed : IndexedSchema) (addition : Addition) : IndexedSchema :=
  let indexed' := { indexed with schema := indexed.schema.add addition }
  match addition with
  | .simpleType type =>
    { indexed' with
      simplePlaces := indexed.simplePlaces.insert type.name indexed.schema.simpleTypes.length }
  | .complexType type =>
    { indexed' with
      complexPlaces := indexed.complexPlaces.insert type.name indexed.schema.complexTypes.length }
  | _ => indexed'

/-- The schema that additions make. -/
def ofAdditions (targetNamespace : Option String) (additions : List Addition) : IndexedSchema :=
  additions.foldl add (new targetNamespace)

def simpleType? (indexed : IndexedSchema) (name : String) : Option SimpleType :=
  indexed.simplePlaces[name]?.bind fun place => indexed.schema.simpleTypes[place]?

def complexType? (indexed : IndexedSchema) (name : String) : Option ComplexType :=
  indexed.complexPlaces[name]?.bind fun place => indexed.schema.complexTypes[place]?

def hasType (indexed : IndexedSchema) (name : String) : Bool :=
  indexed.simplePlaces.contains name || indexed.complexPlaces.contains name

/-- **Both maps are in step with the lists.** -/
structure InStep (indexed : IndexedSchema) : Prop where
  simple : Leads SimpleType.name indexed.simplePlaces indexed.schema.simpleTypes
  complex : Leads ComplexType.name indexed.complexPlaces indexed.schema.complexTypes

theorem inStep_new (targetNamespace : Option String) : (new targetNamespace).InStep :=
  ⟨.nil, .nil⟩

theorem InStep.add {indexed : IndexedSchema} (inStep : indexed.InStep) (addition : Addition) :
    (indexed.add addition).InStep := by
  cases addition with
  | simpleType type => exact ⟨inStep.simple.push type, inStep.complex⟩
  | complexType type => exact ⟨inStep.simple, inStep.complex.push type⟩
  | group group => exact ⟨inStep.simple, inStep.complex⟩
  | element element => exact ⟨inStep.simple, inStep.complex⟩

theorem schema_add (indexed : IndexedSchema) (addition : Addition) :
    (indexed.add addition).schema = indexed.schema.add addition := by
  cases addition <;> rfl

/-- **The maps stay in step through any additions**, and do not change what is listed. -/
theorem inStep_foldl {indexed : IndexedSchema} (inStep : indexed.InStep)
    (additions : List Addition) :
    (additions.foldl IndexedSchema.add indexed).InStep ∧
      (additions.foldl IndexedSchema.add indexed).schema = indexed.schema.addAll additions := by
  induction additions generalizing indexed with
  | nil => exact ⟨inStep, rfl⟩
  | cons addition rest ih =>
    rw [List.foldl_cons, Schema.addAll_cons, ← schema_add]
    exact ih (inStep.add addition)

theorem inStep_ofAdditions (targetNamespace : Option String) (additions : List Addition) :
    (ofAdditions targetNamespace additions).InStep :=
  (inStep_foldl (inStep_new targetNamespace) additions).1

theorem schema_ofAdditions (targetNamespace : Option String) (additions : List Addition) :
    (ofAdditions targetNamespace additions).schema = Schema.addAll { targetNamespace } additions :=
  (inStep_foldl (inStep_new targetNamespace) additions).2

namespace InStep

variable {indexed : IndexedSchema} (inStep : indexed.InStep) (name : String)

include inStep

theorem simpleType?_eq : indexed.simpleType? name = indexed.schema.simpleType? name :=
  inStep.simple.found name

theorem complexType?_eq : indexed.complexType? name = indexed.schema.complexType? name :=
  inStep.complex.found name

theorem hasType_eq : indexed.hasType name = indexed.schema.hasType name := by
  unfold hasType Schema.hasType
  rw [inStep.simple.contains_eq, inStep.complex.contains_eq]

end InStep

end IndexedSchema

/-! ### What look-ups answer -/

/-- **After additions, look-ups find the last type and the first group of a name.** A look-up of a
type goes through its map, which leads to places of the list only, and answers what the schema
answers to a search. -/
structure IndexedSchema.Answers (indexed : IndexedSchema) (additions : List Addition) : Prop where
  simplePlaces : ∀ (name : String) (place : Nat), indexed.simplePlaces[name]? = some place →
    place < indexed.schema.simpleTypes.length
  complexPlaces : ∀ (name : String) (place : Nat), indexed.complexPlaces[name]? = some place →
    place < indexed.schema.complexTypes.length
  simpleType : ∀ name, indexed.simpleType? name = indexed.schema.simpleType? name ∧
    ∀ type, indexed.simpleType? name = some type ↔
      LastAdded .simpleType SimpleType.name additions name type
  complexType : ∀ name, indexed.complexType? name = indexed.schema.complexType? name ∧
    ∀ type, indexed.complexType? name = some type ↔
      LastAdded .complexType ComplexType.name additions name type
  group : ∀ name group, indexed.schema.group? name = some group ↔
    FirstAdded .group ModelGroup.name additions name group
  hasType : ∀ name, indexed.hasType name = indexed.schema.hasType name ∧
    (indexed.hasType name = true ↔
      (indexed.simpleType? name).isSome ∨ (indexed.complexType? name).isSome)

theorem answers_ofAdditions (targetNamespace : Option String) (additions : List Addition) :
    (IndexedSchema.ofAdditions targetNamespace additions).Answers additions := by
  have inStep := IndexedSchema.inStep_ofAdditions targetNamespace additions
  have listed := IndexedSchema.schema_ofAdditions targetNamespace additions
  refine ⟨inStep.simple.inRange, inStep.complex.inRange, fun name => ?_, fun name => ?_,
    fun name group => ?_, fun name => ?_⟩
  · refine ⟨inStep.simpleType?_eq name, fun type => ?_⟩
    rw [inStep.simpleType?_eq, listed, Schema.simpleType?, Schema.simpleTypes_addAll]
    exact reverse_find?_filterMap_eq_some_iff Addition.simpleType?_eq_some_iff
  · refine ⟨inStep.complexType?_eq name, fun type => ?_⟩
    rw [inStep.complexType?_eq, listed, Schema.complexType?, Schema.complexTypes_addAll]
    exact reverse_find?_filterMap_eq_some_iff Addition.complexType?_eq_some_iff
  · rw [listed, Schema.group?, Schema.groups_addAll]
    exact find?_filterMap_eq_some_iff Addition.group?_eq_some_iff
  · refine ⟨inStep.hasType_eq name, ?_⟩
    rw [inStep.hasType_eq, Schema.hasType_eq, Bool.or_eq_true, inStep.simpleType?_eq,
      inStep.complexType?_eq]

/-- **A schema with maps serves in the place of a schema**: it lists what the schema lists, its maps
lead to places of these lists only, and its look-ups answer what the schema answers to a search. -/
structure IndexedSchema.Serves (indexed : IndexedSchema) (schema : Schema) : Prop where
  lists : indexed.schema = schema
  simplePlaces : ∀ (name : String) (place : Nat), indexed.simplePlaces[name]? = some place →
    place < schema.simpleTypes.length
  complexPlaces : ∀ (name : String) (place : Nat), indexed.complexPlaces[name]? = some place →
    place < schema.complexTypes.length
  simpleType : ∀ name, indexed.simpleType? name = schema.simpleType? name
  complexType : ∀ name, indexed.complexType? name = schema.complexType? name
  hasType : ∀ name, indexed.hasType name = schema.hasType name

theorem IndexedSchema.InStep.serves {indexed : IndexedSchema} (inStep : indexed.InStep) :
    indexed.Serves indexed.schema where
  lists := rfl
  simplePlaces := inStep.simple.inRange
  complexPlaces := inStep.complex.inRange
  simpleType := inStep.simpleType?_eq
  complexType := inStep.complexType?_eq
  hasType := inStep.hasType_eq

end SchemaBinding
