/-
**Where a fixed-value pass ends, and what it leaves behind.**

Only a malformed field ends a pass: a single field without initializer whose type has a reader that
rejects its fixed value (`Field.Malformed`). This is told from the field alone, whatever stands
around it, and it is the same as having no outcome (`outcome_eq_error_iff`).

The first such field, in the order of classes and then of fields, is where the pass stops
(`FieldPlace.IsFirstMalformed`). All that stands before it is settled, the class of the field as far
as it was visited; the field and all that stands behind it are as they were
(`FieldPlace.classesLeft`).

A field takes an initializer only once (`Field.setInitializer`). No write of a pass is refused for
that, since an outcome is an initializer only where there is none yet (`write_of_visit`).
-/

import Mathlib.Data.List.TakeWhile
import SchemaBinding.Proofs.Fallible
import SchemaBinding.Proofs.FixedValue.ClosedForm

namespace SchemaBinding

/-! ### Malformed fields -/

/-- **The reader of a type rejects a value**, with the given fault. The types that are not listed
have no reader. -/
inductive Rejects (value : String) : FieldType → LiteralFault → Prop
  | boolean {fault : LiteralFault} (read : readBoolean value = .error fault) :
      Rejects value .boolean fault
  | byte {fault : LiteralFault} (read : readNarrow .bits8 value = .error fault) :
      Rejects value .byte fault
  | short {fault : LiteralFault} (read : readNarrow .bits16 value = .error fault) :
      Rejects value .short fault
  | int {fault : LiteralFault} (read : readNarrow .bits32 value = .error fault) :
      Rejects value .int fault
  | long {fault : LiteralFault} (read : readLong value = .error fault) : Rejects value .long fault
  | float {fault : LiteralFault} (read : readSingle value = .error fault) :
      Rejects value .float fault
  | double {fault : LiteralFault} (read : readDouble value = .error fault) :
      Rejects value .double fault

/-- **The field waits for a fixed value that is malformed**: it stems from an element with this
value, has no initializer, is single, and the reader of its type rejects the value. -/
structure Field.Malformed (field : Field) (value : String) (fault : LiteralFault) : Prop where
  fixed : ∃ occurs decl, field.origin = .particle (.element occurs decl) ∧
    decl.fixedValue = some value
  free : field.initializer = none
  single : field.repeated = false
  rejected : Rejects value field.type fault

def Field.IsMalformed (field : Field) : Prop := ∃ value fault, field.Malformed value fault

section

variable {around : Surroundings} {field : Field} {value : String}

theorem singleOutcome_eq_error_iff {fault : LiteralFault} :
    around.singleOutcome field value = .error fault ↔ Rejects value field.type fault := by
  unfold Surroundings.singleOutcome
  constructor
  · intro failed
    cases type : field.type with
    | boolean => exact .boolean (map_eq_error_iff.mp (by simpa only [type] using failed))
    | byte => exact .byte (map_eq_error_iff.mp (by simpa only [type] using failed))
    | short => exact .short (map_eq_error_iff.mp (by simpa only [type] using failed))
    | int => exact .int (map_eq_error_iff.mp (by simpa only [type] using failed))
    | long => exact .long (map_eq_error_iff.mp (by simpa only [type] using failed))
    | float => exact .float (map_eq_error_iff.mp (by simpa only [type] using failed))
    | double => exact .double (map_eq_error_iff.mp (by simpa only [type] using failed))
    | enumeration name =>
      simp only [type] at failed
      split at failed <;> simp at failed
    | calendar =>
      simp only [type] at failed
      split at failed <;> simp at failed
    | text | dataClass | foreign => simp [type] at failed
  · intro rejects
    generalize field.type = type at rejects
    cases rejects with
    | boolean read | byte read | short read | int read | long read | float read | double read =>
      exact map_eq_error_iff.mpr read

theorem valueOutcome_eq_error_iff {fault : LiteralFault} :
    around.valueOutcome field value = .error fault ↔
      field.repeated = false ∧ Rejects value field.type fault := by
  unfold Surroundings.valueOutcome
  by_cases repeated : field.repeated = true
  · simp [repeated]
  · rw [if_neg repeated, singleOutcome_eq_error_iff]
    simp [repeated]

/-- **A field has no outcome exactly if it is malformed.** -/
theorem outcome_eq_error_iff {malformed : MalformedValue} :
    around.outcome field = .error malformed ↔
      ∃ value fault, field.Malformed value fault ∧
        malformed = { className := around.className, field := field.name, value, fault } := by
  constructor
  · intro failed
    unfold Surroundings.outcome at failed
    split at failed
    · simp at failed
    · simp at failed
    · rename_i occurs decl origin
      split at failed
      · simp at failed
      · simp at failed
      · rename_i value fixed free
        obtain ⟨fault, read, rfl⟩ := mapError_eq_error_iff.mp failed
        obtain ⟨single, rejected⟩ := valueOutcome_eq_error_iff.mp read
        exact ⟨value, fault, ⟨⟨occurs, decl, origin, fixed⟩, free, single, rejected⟩, rfl⟩
    · simp at failed
  · rintro ⟨value, fault, ⟨⟨occurs, decl, origin, fixed⟩, free, single, rejected⟩, rfl⟩
    have read : around.valueOutcome field value = .error fault :=
      valueOutcome_eq_error_iff.mpr ⟨single, rejected⟩
    simp only [Surroundings.outcome, origin, fixed, free, read]
    rfl

/-- A pass goes on behind a field exactly if it is not malformed. -/
theorem settles_iff : around.settles field = true ↔ ¬ field.IsMalformed := by
  unfold Surroundings.settles
  cases read : around.outcome field with
  | ok outcome =>
    refine iff_of_true rfl ?_
    rintro ⟨value, fault, malformed⟩
    have failed : around.outcome field =
        .error { className := around.className, field := field.name, value, fault } :=
      outcome_eq_error_iff.mpr ⟨value, fault, malformed, rfl⟩
    rw [read] at failed
    exact nomatch failed
  | error malformed =>
    obtain ⟨value, fault, rejected, -⟩ := outcome_eq_error_iff.mp read
    exact iff_of_false Bool.false_ne_true (not_not_intro ⟨value, fault, rejected⟩)

end

/-! ### Writes -/

/-- Writes an outcome to a field, which takes an initializer only once. -/
def Field.write (field : Field) : Outcome → Except MemberFault Field
  | .initialized expr => field.setInitializer expr
  | _ => .ok field

theorem write_of_free {field : Field} (free : field.initializer = none) (outcome : Outcome) :
    field.write outcome = .ok (field.after outcome) := by
  cases outcome with
  | initialized expr => simp [Field.write, Field.setInitializer, free, Field.after]
  | skipped | diagnosed => rfl

/-- **What a visit decides can be written**, whatever the class looks like at that time. -/
theorem write_of_visit {c : DataClass} {enums : List Enumeration} {settings : Settings}
    {slot : Option String} {field : Field} {visit : Visit}
    (visited : c.visit enums settings slot field = .ok visit) :
    field.write visit.outcome = .ok (field.after visit.outcome) := by
  unfold DataClass.visit at visited
  split at visited
  · rw [← Except.ok.inj visited]
    rfl
  · split at visited
    · rw [← Except.ok.inj visited]
      rfl
    · rename_i uninitialized
      exact write_of_free (by simpa using uninitialized) _

/-! ### The first malformed field -/

/-- A field in a list of classes, and what stands before and behind it. -/
structure FieldPlace where
  earlier : List DataClass
  owner : DataClass
  later : List DataClass
  before : List Field
  field : Field
  after : List Field

namespace FieldPlace

/-- **The field is the first one in the classes that is malformed.** -/
structure IsFirstMalformed (place : FieldPlace) (classes : List DataClass) (value : String)
    (fault : LiteralFault) : Prop where
  classes_eq : classes = place.earlier ++ place.owner :: place.later
  fields_eq : place.owner.fields = place.before ++ place.field :: place.after
  malformed : place.field.Malformed value fault
  earlier : ∀ c ∈ place.earlier, ∀ field ∈ c.fields, ¬ field.IsMalformed
  before : ∀ field ∈ place.before, ¬ field.IsMalformed

/-- **The classes after a pass that ended at the field**: what stands before it is settled, the field
and what stands behind it is not touched. -/
def classesLeft (place : FieldPlace) (enums : List Enumeration) (settings : Settings) :
    List DataClass :=
  let around := place.owner.surroundings enums settings
  place.earlier.map (·.settle enums settings) ++
    { place.owner with
      fields := place.before.map around.settle ++ place.field :: place.after
      statics := around.staticsAfter place.before } :: place.later

end FieldPlace

section

variable {enums : List Enumeration} {settings : Settings}

/-- A scan that comes to its end meets no malformed field. -/
theorem wellFormed_of_scan_finished {c : DataClass}
    (finished : (c.scan enums settings).fault = none) :
    ∀ field ∈ c.fields, ¬ field.IsMalformed := by
  intro field member
  have all := List.dropWhile_eq_nil_iff.mp (dropWhile_settles_of_finished c enums settings finished)
  exact settles_iff.mp (all field member)

/-- **A scan that ends early does so at the first malformed field of the class.** -/
theorem exists_of_scan_fault {c : DataClass} {malformed : MalformedValue}
    (ended : (c.scan enums settings).fault = some malformed) (later : List DataClass) :
    ∃ place : FieldPlace, ∃ value fault, place.IsFirstMalformed (c :: later) value fault ∧
      malformed = { className := place.owner.name, field := place.field.name, value, fault } ∧
      (c.scan enums settings).result :: later = place.classesLeft enums settings := by
  obtain ⟨resultEq, -, faultEq⟩ := scan_eq c enums settings
  have parts := List.takeWhile_append_dropWhile
    (p := (c.surroundings enums settings).settles) (l := c.fields)
  rw [ended] at faultEq
  cases left : c.fields.dropWhile (c.surroundings enums settings).settles with
  | nil => simp [left] at faultEq
  | cons field after =>
    have failed : (c.surroundings enums settings).outcome field = .error malformed := by
      simp only [left, List.head?_cons, Option.bind_some, Surroundings.fault?] at faultEq
      split at faultEq
      · simp at faultEq
      · rename_i read
        rw [read, Option.some.inj faultEq]
    obtain ⟨value, fault, rejected, named⟩ := outcome_eq_error_iff.mp failed
    refine ⟨⟨[], c, later, c.fields.takeWhile (c.surroundings enums settings).settles, field, after⟩,
      value, fault, ⟨rfl, ?_, rejected, by simp, ?_⟩, named, ?_⟩
    · rw [← left]
      exact parts.symm
    · exact fun f member => settles_iff.mp (List.mem_takeWhile_imp member)
    · rw [resultEq, left]
      rfl

theorem wellFormed_of_finished {classes : List DataClass}
    (finished : (scanClasses enums settings classes).fault = none) :
    ∀ c ∈ classes, ∀ field ∈ c.fields, ¬ field.IsMalformed := by
  induction classes with
  | nil => simp
  | cons c rest ih =>
    rw [scanClasses] at finished
    cases ended : (c.scan enums settings).fault with
    | some malformed => simp [ended] at finished
    | none =>
      simp only [ended] at finished
      intro d member
      rcases List.mem_cons.mp member with rfl | later
      · exact wellFormed_of_scan_finished ended
      · exact ih finished d later

/-- **Scanning classes ends early at the first malformed field among them**, and leaves a settled
prefix behind. -/
theorem exists_of_fault {classes : List DataClass} {malformed : MalformedValue}
    (ended : (scanClasses enums settings classes).fault = some malformed) :
    ∃ place : FieldPlace, ∃ value fault, place.IsFirstMalformed classes value fault ∧
      malformed = { className := place.owner.name, field := place.field.name, value, fault } ∧
      (scanClasses enums settings classes).classes = place.classesLeft enums settings := by
  induction classes with
  | nil => simp [scanClasses] at ended
  | cons c rest ih =>
    rw [scanClasses] at ended ⊢
    cases fault : (c.scan enums settings).fault with
    | some first =>
      simp only [fault] at ended ⊢
      rw [← Option.some.inj ended]
      exact exists_of_scan_fault fault rest
    | none =>
      simp only [fault] at ended ⊢
      obtain ⟨place, value, literalFault, isFirst, named, classesEq⟩ := ih ended
      refine ⟨{ place with earlier := c :: place.earlier }, value, literalFault,
        ⟨?_, isFirst.fields_eq, isFirst.malformed, ?_, isFirst.before⟩, named, ?_⟩
      · rw [isFirst.classes_eq]
        rfl
      · intro d member
        rcases List.mem_cons.mp member with rfl | later
        · exact wellFormed_of_scan_finished fault
        · exact isFirst.earlier d later
      · rw [classesEq, (scan_of_finished c enums settings fault).1]
        rfl

end

/-- **A pass that ends early leaves exactly a settled prefix.** It ends early exactly if some field
is malformed. Then its fault names the first such field, with the value and what the reader of its
type says of it, and the model is settled up to this field, just as a pass that comes to its end
settles all of it, and untouched from there on. Nothing else ends a pass: what the visit of a field
decides can always be written. -/
theorem applyFixedValues_stops_at_first (model : Model) (settings : Settings) :
    let pass := model.applyFixedValues settings
    (pass.fault.isSome ↔ ∃ c ∈ model.classes, ∃ field ∈ c.fields, field.IsMalformed) ∧
      (∀ malformed, pass.fault = some malformed →
        ∃ place : FieldPlace, ∃ value fault, place.IsFirstMalformed model.classes value fault ∧
          malformed = { className := place.owner.name, field := place.field.name, value, fault } ∧
          pass.model = { model with classes := place.classesLeft model.enums settings }) ∧
      (pass.fault = none →
        pass.model = { model with classes := model.classes.map (·.settle model.enums settings) }) ∧
      ∀ (c : DataClass) (slot : Option String) (field : Field) (visit : Visit),
        c.visit model.enums settings slot field = .ok visit →
          field.write visit.outcome = .ok (field.after visit.outcome) := by
  intro pass
  have stops : ∀ malformed, pass.fault = some malformed →
      ∃ place : FieldPlace, ∃ value fault, place.IsFirstMalformed model.classes value fault ∧
        malformed = { className := place.owner.name, field := place.field.name, value, fault } ∧
        pass.model = { model with classes := place.classesLeft model.enums settings } := by
    intro malformed ended
    obtain ⟨place, value, fault, isFirst, named, classesEq⟩ := exists_of_fault ended
    refine ⟨place, value, fault, isFirst, named, ?_⟩
    rw [← classesEq]
    rfl
  refine ⟨⟨fun ended => ?_, ?_⟩, stops, fun finished => ?_, fun c slot field visit => write_of_visit⟩
  · obtain ⟨malformed, ended⟩ := Option.isSome_iff_exists.mp ended
    obtain ⟨place, value, fault, isFirst, -⟩ := stops malformed ended
    have owner : place.owner ∈ model.classes := by
      rw [isFirst.classes_eq]
      exact List.mem_append_right _ List.mem_cons_self
    have field : place.field ∈ place.owner.fields := by
      rw [isFirst.fields_eq]
      exact List.mem_append_right _ List.mem_cons_self
    exact ⟨place.owner, owner, place.field, field, value, fault, isFirst.malformed⟩
  · rintro ⟨c, class_mem, field, member, malformed⟩
    cases ended : pass.fault with
    | some first => rfl
    | none => exact (wellFormed_of_finished ended c class_mem field member malformed).elim
  · rw [← (scanClasses_of_finished model.enums settings model.classes finished).1]
    rfl

/-- A single field of an element with a fixed value, under the name of the element. -/
def Field.ofFixedElement (name : String) (type : FieldType) (value : String) : Field where
  name
  schemaName := name
  type
  origin := .particle (.element {} { name, fixedValue := value })

/-- A class with a date in front of a malformed number, and another one with a date. -/
def orderModel : Model where
  classes := [
    { name := "Order"
      schemaName := "order"
      fields := [
        .ofFixedElement "day" .calendar "2020-02-29",
        .ofFixedElement "count" .int "7.5",
        .ofFixedElement "note" .text "late"] },
    { name := "Invoice"
      schemaName := "invoice"
      fields := [.ofFixedElement "day" .calendar "2020-02-29"] }]

/-- The pass over the orders ends at the number, behind a date that needed the slot. -/
theorem applyFixedValues_orderModel :
    (orderModel.applyFixedValues {}).fault = some
        { className := "Order", field := "count", value := "7.5"
          fault := .integer .invalidDigit } ∧
      ∃ place : FieldPlace, ∃ value fault,
        place.IsFirstMalformed orderModel.classes value fault ∧
          (orderModel.applyFixedValues {}).model =
            { orderModel with classes := place.classesLeft orderModel.enums {} } := by
  have ended : (orderModel.applyFixedValues {}).fault = some
      { className := "Order", field := "count", value := "7.5"
        fault := .integer .invalidDigit } := by
    decide +kernel
  obtain ⟨-, stops, -⟩ := applyFixedValues_stops_at_first orderModel {}
  obtain ⟨place, value, fault, isFirst, -, modelEq⟩ := stops _ ended
  exact ⟨ended, place, value, fault, isFirst, modelEq⟩

end SchemaBinding
