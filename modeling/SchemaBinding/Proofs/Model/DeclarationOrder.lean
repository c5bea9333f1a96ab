/-
**The order of declarations does not matter.**

Components are declared in some order, and each finds the others by name. As long as names are
different it makes no difference to a look-up where the component stands that it finds
(`find?_reordered`), or whether it stands before or behind the one that asks. So two schemas that
declare the same components in different orders answer all look-ups alike (`answersAs`), and each
component has the same enumeration or the same class in both. Only the order in which enumerations
and classes are listed follows that of the declarations.
-/

import SchemaBinding.Proofs.Document.DistinctNames
import SchemaBinding.Proofs.Keyed
import SchemaBinding.Proofs.Model.Lookups

namespace SchemaBinding

/-- **Two schemas declare the same components**, those of each kind in any order. -/
structure Schema.Reordered (schema other : Schema) : Prop where
  targetNamespace : schema.targetNamespace = other.targetNamespace
  simpleTypes : schema.simpleTypes.Perm other.simpleTypes
  complexTypes : schema.complexTypes.Perm other.complexTypes
  groups : schema.groups.Perm other.groups
  elements : schema.elements.Perm other.elements

/-- The simple types that become enumerations, in the order of these. -/
def Schema.enumTypes (schema : Schema) : List SimpleType :=
  schema.simpleTypes.filter (·.isEnumeration)

/-! ### Look-ups -/

section

variable {schema other : Schema} (same : schema.Reordered other) (names : schema.NamesDistinct)
  (elements : (schema.elements.map (·.decl.name)).Nodup)

include same

include names elements in
/-- **Schemas with the same components answer all look-ups alike.** -/
theorem Schema.Reordered.answersAs : schema.AnswersAs other where
  simpleType := reverse_find?_reordered same.simpleTypes (List.nodup_append.mp (names .type)).1
  complexType := reverse_find?_reordered same.complexTypes (List.nodup_append.mp (names .type)).2.1
  group := find?_reordered same.groups (names .group)
  element := find?_reordered same.elements elements
  anonymousType _ := same.elements.any_eq

/-! ### Components -/

theorem Schema.Reordered.enumTypes : schema.enumTypes.Perm other.enumTypes :=
  same.simpleTypes.filter _

theorem Schema.Reordered.classTypes : schema.classTypes.Perm other.classTypes :=
  (same.complexTypes.map _).append (same.elements.filterMap _)

end

/-- What is made of each component goes with it into any order. -/
theorem zip_map_reordered {α β : Type} {first second : List α} (same : first.Perm second)
    (f : α → β) : (first.zip (first.map f)).Perm (second.zip (second.map f)) := by
  rw [← List.map_prod_left_eq_zip, ← List.map_prod_left_eq_zip]
  exact same.map _

/-- **The order of declarations does not matter.** If two schemas declare the same components in
different orders, and no two types, groups or elements have the same name, then both have the same
enumerations and the same classes. They are listed in the order of their components: each
enumeration goes with its simple type, and each class with its complex type, and all its fields stay
as they are. -/
theorem ofSchema_reordered {schema other : Schema} (same : schema.Reordered other)
    (names : schema.NamesDistinct) (elements : (schema.elements.map (·.decl.name)).Nodup) :
    let model := Model.ofSchema schema
    let turned := Model.ofSchema other
    turned.package = model.package ∧
      model.enums.Perm turned.enums ∧
      (schema.enumTypes.zip model.enums).Perm (other.enumTypes.zip turned.enums) ∧
      model.classes.Perm turned.classes ∧
      (schema.classTypes.zip model.classes).Perm (other.classTypes.zip turned.classes) := by
  intro model turned
  have alike : schema.AnswersAs other := same.answersAs names elements
  have classes : turned.classes =
      other.classTypes.map fun entry => schema.classOf entry.1 entry.2 := by
    rw [show turned.classes = _ from classes_ofSchema other]
    exact List.map_congr_left fun entry _ => (classOf_eq_of_answersAs alike entry.1 entry.2).symm
  have package : turned.package = model.package :=
    congrArg packageName same.targetNamespace.symm
  refine ⟨package, same.enumTypes.map _, zip_map_reordered same.enumTypes _, ?_, ?_⟩
  · rw [classes, show model.classes = _ from classes_ofSchema schema]
    exact same.classTypes.map _
  · rw [classes, show model.classes = _ from classes_ofSchema schema]
    exact zip_map_reordered same.classTypes _

/-- A museum: its rooms hold labelled pieces, whose grade is a level. -/
def museumSchema : Schema :=
  Schema.addSimpleType {} { name := "grade", base := "level" }
    |>.addSimpleType { name := "level", enumerations := ["low", "high"] }
    |>.addComplexType { name := "room", particles := [.groupRef {} "pieces"] }
    |>.addComplexType { name := "piece", attributes := [{ name := "grade", typeName := "grade" }] }
    |>.addGroup { name := "pieces", particles := [.groupRef {} "labelled"] }
    |>.addGroup {
      name := "labelled"
      particles := [
        .element {} { name := "label", isReference := true },
        .element {} { name := "piece", typeName := "piece" }] }
    |>.addElement { decl := { name := "label" }, anonymousType := some { name := "label" } }
    |>.addElement { decl := { name := "guide" }, anonymousType := some { name := "guide" } }

/-- The museum with everything declared the other way round. -/
def turnedMuseumSchema : Schema where
  simpleTypes := museumSchema.simpleTypes.reverse
  complexTypes := museumSchema.complexTypes.reverse
  groups := museumSchema.groups.reverse
  elements := museumSchema.elements.reverse

/-- The four classes of the museum and its enumeration stay what they are. -/
theorem ofSchema_reordered_museum :
    let model := Model.ofSchema museumSchema
    let turned := Model.ofSchema turnedMuseumSchema
    museumSchema.Reordered turnedMuseumSchema ∧ museumSchema.NamesDistinct ∧
      (museumSchema.elements.map (·.decl.name)).Nodup ∧
      model.classes.map (·.name) = ["Room", "Piece", "Label", "Guide"] ∧
      turned.classes.map (·.name) = ["Piece", "Room", "Guide", "Label"] ∧
      turned.package = model.package ∧ model.enums.Perm turned.enums ∧
      (museumSchema.enumTypes.zip model.enums).Perm
        (turnedMuseumSchema.enumTypes.zip turned.enums) ∧
      model.classes.Perm turned.classes ∧
      (museumSchema.classTypes.zip model.classes).Perm
        (turnedMuseumSchema.classTypes.zip turned.classes) := by
  intro model turned
  have same : museumSchema.Reordered turnedMuseumSchema :=
    ⟨rfl, (List.reverse_perm _).symm, (List.reverse_perm _).symm, (List.reverse_perm _).symm,
      (List.reverse_perm _).symm⟩
  have names : museumSchema.NamesDistinct := by
    intro kind
    cases kind <;> decide +kernel
  have elements : (museumSchema.elements.map (·.decl.name)).Nodup := by decide +kernel
  exact ⟨same, names, elements, by decide +kernel, by decide +kernel,
    ofSchema_reordered same names elements⟩

end SchemaBinding
