/-
**What is written into a model is written once.**

After a model has been made from a schema, it is changed by fixed-value passes with any settings,
and class by class: the slot is asked for, static members are added, and fields are given
initializers. A change may be refused, and a pass may end half way. Whatever changes are made and in
whatever order, the model only grows: one change makes it grow (`growsTo_step`), and so do many
(`growsTo_run`).

`run_ofSchema`: the members of a class always have different names, fields stay those that the
schema gave, an initializer or static member that is there once stays, and a change of a class that
is refused changes nothing.
-/

import SchemaBinding.Proofs.FixedValue.Typing
import SchemaBinding.Proofs.Model.FieldNames
import SchemaBinding.Proofs.Model.Growth

namespace SchemaBinding

/-! ### Changes -/

/-- A change of one class. A field is given by its place. -/
inductive ClassChange
  | ensureSlot (settings : Settings)
  | addStatic (member : StaticMember)
  | setInitializer (field : Nat) (expr : Expr)

/-- **A change of a model.** A class is given by its place. -/
inductive ModelChange
  | applyFixedValues (settings : Settings)
  | ofClass (place : Nat) (change : ClassChange)

/-- Why a change does not come to its end. -/
inductive ChangeFault
  | malformedValue (value : MalformedValue)
  | member (fault : MemberFault)

/-- What a change leaves behind. -/
structure ChangeResult where
  model : Model
  fault : Option ChangeFault := none

/-- The class with an initializer for the field at a place, if there is a field. -/
def DataClass.setInitializer (c : DataClass) (place : Nat) (expr : Expr) :
    Except MemberFault DataClass :=
  match c.fields[place]? with
  | none => .ok c
  | some field =>
    (field.setInitializer expr).map fun field => { c with fields := c.fields.set place field }

def DataClass.change (c : DataClass) : ClassChange → Except MemberFault DataClass
  | .ensureSlot settings => c.ensureSlot settings
  | .addStatic member => c.addStatic member
  | .setInitializer place expr => c.setInitializer place expr

/-- The change of the class at a place, if there is one: it is made, or it is refused. -/
def Model.stepClass (model : Model) (place : Nat) (change : ClassChange) : ChangeResult :=
  match model.classes[place]? with
  | none => { model }
  | some c =>
    match c.change change with
    | .error fault => { model, fault := some (.member fault) }
    | .ok changed => { model := { model with classes := model.classes.set place changed } }

/-- **One change of a model.** A pass that ends half way leaves its work behind. -/
def Model.step (model : Model) : ModelChange → ChangeResult
  | .applyFixedValues settings =>
    let pass := model.applyFixedValues settings
    { model := pass.model, fault := pass.fault.map .malformedValue }
  | .ofClass place change => model.stepClass place change

/-- The model after changes, made one after another. -/
def Model.run (model : Model) (changes : List ModelChange) : Model :=
  changes.foldl (fun model change => (model.step change).model) model

/-! ### Changes make a model grow -/

section

variable {c d : DataClass}

theorem growsTo_setInitializerAt {place : Nat} {expr : Expr}
    (set : c.setInitializer place expr = .ok d) : c.GrowsTo d := by
  unfold DataClass.setInitializer at set
  cases here : c.fields[place]? with
  | none =>
    rw [here] at set
    obtain rfl : c = d := Except.ok.inj set
    exact .refl c
  | some field =>
    rw [here] at set
    obtain ⟨initialized, accepted, rfl⟩ := exists_of_map_ok set
    exact growsTo_fields (forall₂_set Field.GrowsTo.refl here (growsTo_setInitializer accepted))

theorem growsTo_change {change : ClassChange} (changed : c.change change = .ok d) :
    c.GrowsTo d := by
  cases change with
  | ensureSlot settings => exact growsTo_ensureSlot changed
  | addStatic member => exact growsTo_addStatic changed
  | setInitializer place expr => exact growsTo_setInitializerAt changed

end

/-- **What the change of a class can do**: it puts the changed class in its place, or it leaves the
model as it is. Only in the second case there may be a fault. -/
theorem stepClass_cases (model : Model) (place : Nat) (change : ClassChange) :
    (∃ c changed, model.classes[place]? = some c ∧ c.change change = .ok changed ∧
        model.stepClass place change =
          { model := { model with classes := model.classes.set place changed } }) ∨
      ∃ fault, model.stepClass place change = { model, fault } := by
  unfold Model.stepClass
  cases here : model.classes[place]? with
  | none => exact .inr ⟨none, rfl⟩
  | some c =>
    cases changed : c.change change with
    | error fault => exact .inr ⟨some (.member fault), by simp only [changed]⟩
    | ok d => exact .inl ⟨c, d, rfl, changed, by simp only [changed]⟩

theorem growsTo_stepClass (model : Model) (place : Nat) (change : ClassChange) :
    model.GrowsTo (model.stepClass place change).model := by
  rcases stepClass_cases model place change with ⟨c, d, here, changed, result⟩ | ⟨fault, result⟩
  · rw [result]
    exact ⟨rfl, rfl, forall₂_set DataClass.GrowsTo.refl here (growsTo_change changed)⟩
  · rw [result]
    exact .refl model

/-- A change of a class that is refused changes nothing. -/
theorem stepClass_of_refused {model : Model} {place : Nat} {change : ClassChange}
    {fault : ChangeFault} (refused : (model.stepClass place change).fault = some fault) :
    (model.stepClass place change).model = model := by
  rcases stepClass_cases model place change with ⟨c, d, -, -, result⟩ | ⟨other, result⟩
  · rw [result] at refused
    exact nomatch refused
  · rw [result]

/-- **One change makes a model grow**, whether or not it comes to its end. -/
theorem growsTo_step (model : Model) (change : ModelChange) :
    model.GrowsTo (model.step change).model := by
  cases change with
  | applyFixedValues settings => exact growsTo_pass model settings
  | ofClass place change => exact growsTo_stepClass model place change

/-- **So do many changes**, one after another. -/
theorem growsTo_run (model : Model) (changes : List ModelChange) :
    model.GrowsTo (model.run changes) := by
  induction changes generalizing model with
  | nil => exact .refl model
  | cons change rest ih => exact (growsTo_step model change).trans (ih (model.step change).model)

/-! ### Runs from a schema -/

theorem uninitialized_eq {field : Field} (plain : field.initializer = none) :
    field.uninitialized = field := by
  rw [Field.uninitialized, ← plain]

/-- Fields that have no initializer can be told from those that they grow into. -/
theorem uninitialized_of_growsTo {before after : List Field}
    (grow : List.Forall₂ Field.GrowsTo before after)
    (plain : ∀ field ∈ before, field.initializer = none) :
    after.map Field.uninitialized = before := by
  induction grow with
  | nil => rfl
  | cons step _ ih =>
    obtain ⟨first, later⟩ := List.forall_mem_cons.mp plain
    rw [List.map_cons, ih later, step.frame, uninitialized_eq first]

/-- **What is written into a model is written once.** A model that has been made from a schema is
changed in any way, and then again. Every class is still there, and its members have different
names; its fields are those that it was made with, in their order, but for initializers. Every
initializer that was there in between is still there, and so is every static member, in front of
those that were added since. And a change of a class that is refused leaves the model as it is. -/
theorem run_ofSchema (schema : Schema) (earlier later : List ModelChange) :
    let made := Model.ofSchema schema
    let before := made.run earlier
    let now := before.run later
    now.package = made.package ∧ now.enums = made.enums ∧
      List.Forall₂ (fun origin c => c.memberNames.Nodup ∧ c.name = origin.name ∧
          c.schemaName = origin.schemaName ∧ c.fields.map Field.uninitialized = origin.fields)
        made.classes now.classes ∧
      List.Forall₂ (fun old c => old.statics <+: c.statics ∧
          List.Forall₂ (fun first second =>
              ∀ expr, first.initializer = some expr → second.initializer = some expr)
            old.fields c.fields)
        before.classes now.classes ∧
      ∀ place change fault, (now.step (.ofClass place change)).fault = some fault →
        (now.step (.ofClass place change)).model = now := by
  intro made before now
  have late : before.GrowsTo now := growsTo_run before later
  have whole : made.GrowsTo now := (growsTo_run made earlier).trans late
  have fresh : ∀ c ∈ made.classes, c.memberNames.Nodup ∧
      ∀ field ∈ c.fields, field.initializer = none := fun c here =>
    ⟨nodup_memberNames_ofSchema here, fun field => initializer_of_mem_ofSchema here⟩
  refine ⟨whole.package, whole.enums, ?_, ?_, fun place change fault => stepClass_of_refused⟩
  · refine ((List.forall₂_and_left _ _).mpr ⟨fresh, whole.classes⟩).imp ?_
    rintro origin c ⟨⟨distinct, plain⟩, grow⟩
    exact ⟨grow.distinct distinct, grow.name, grow.schemaName,
      uninitialized_of_growsTo grow.fields plain⟩
  · refine late.classes.imp fun old c grow => ⟨grow.statics, ?_⟩
    exact grow.fields.imp fun _ _ growing => growing.kept

/-- The date of an order is initialized in a pass that ends at the number behind it. A backup is
added then, and another initializer for the date is refused. -/
theorem run_ofSchema_datedOrder :
    let made := Model.ofSchema datedOrder
    let before := made.run [.applyFixedValues {}]
    let now := before.run [.ofClass 0 (.addStatic ⟨"BACKUP", "Backup", .value (.boolean true)⟩)]
    let refused := now.step (.ofClass 0 (.setInitializer 0 (.text "2020-03-01")))
    now.classes.map (·.memberNames) = [["day", "count", "DATATYPE_FACTORY", "BACKUP"]] ∧
      refused.fault.isSome ∧ refused.model = now ∧
      List.Forall₂ (fun origin c => c.memberNames.Nodup ∧ c.name = origin.name ∧
          c.schemaName = origin.schemaName ∧ c.fields.map Field.uninitialized = origin.fields)
        made.classes now.classes := by
  intro made before now refused
  have members : now.classes.map (·.memberNames) =
      [["day", "count", "DATATYPE_FACTORY", "BACKUP"]] := by decide +kernel
  have occupied : refused.fault.isSome = true := by decide +kernel
  obtain ⟨-, -, classes, -, unchanged⟩ := run_ofSchema datedOrder [.applyFixedValues {}]
    [.ofClass 0 (.addStatic ⟨"BACKUP", "Backup", .value (.boolean true)⟩)]
  obtain ⟨fault, reason⟩ := Option.isSome_iff_exists.mp occupied
  exact ⟨members, occupied, unchanged _ _ fault reason, classes⟩

end SchemaBinding
