/-
**The outcome of a field without the pass.**

What a fixed-value pass makes of a field is told here without a pass: from the field, and from what
stands around it before the pass begins (`Surroundings`). The members that the pass adds on its way
and the slot that it remembers do not occur.

* `Surroundings.outcome` — the outcome of a field, or the malformed value that ends a pass there.
* `Surroundings.UsesSlot` — the fields that are initialized through the slot of their class.
* `Field.AwaitsDate` — the fields that ask for the slot; whether it can be had decides what becomes of
  them.
* `Surroundings.staticsAfter` — the static members that a class has once such fields are
  initialized: the slot is added behind the others if no member has its name.

The slot cannot be had exactly if another member has its name (`Surroundings.SlotInTheWay`).
-/

import SchemaBinding.FixedValue.Pass

namespace SchemaBinding

/-- What the outcome of a field may depend on besides the field itself: the name of its class, the
names of the members and the static members of the class before the pass, the enumerations of the
model, and the settings. -/
structure Surroundings where
  className : String
  memberNames : List String
  statics : List StaticMember
  enums : List Enumeration
  settings : Settings

/-- What stands around the fields of a class. -/
def DataClass.surroundings (c : DataClass) (enums : List Enumeration) (settings : Settings) :
    Surroundings where
  className := c.name
  memberNames := c.memberNames
  statics := c.statics
  enums
  settings

section

variable (c : DataClass) (enums : List Enumeration) (settings : Settings)

@[simp] theorem className_surroundings : (c.surroundings enums settings).className = c.name := rfl

@[simp] theorem memberNames_surroundings :
    (c.surroundings enums settings).memberNames = c.memberNames := rfl

@[simp] theorem statics_surroundings : (c.surroundings enums settings).statics = c.statics := rfl

@[simp] theorem enums_surroundings : (c.surroundings enums settings).enums = enums := rfl

@[simp] theorem settings_surroundings : (c.surroundings enums settings).settings = settings := rfl

end

/-- The fixed value of the element that a field stems from. -/
def Field.fixedText? (field : Field) : Option String :=
  match field.origin with
  | .particle (.element _ decl) => decl.fixedValue
  | _ => none

namespace Surroundings

variable (around : Surroundings)

/-- **Another member has the name of the slot**: a member has it, and the first static member of
that name, if there is one, is not the slot. -/
def SlotInTheWay : Prop :=
  around.settings.slotName ∈ around.memberNames ∧
    around.statics.find? (·.name == around.settings.slotName) ≠ some around.settings.slot

theorem find?_eq_slot_iff :
    around.statics.find? (·.name == around.settings.slotName) = some around.settings.slot ↔
      (around.statics.find? (·.name == around.settings.slotName)).any around.settings.isSlot := by
  cases around.statics.find? (·.name == around.settings.slotName) with
  | none => simp
  | some member => simp [Settings.isSlot_iff]

instance : Decidable around.SlotInTheWay :=
  decidable_of_iff
    (around.settings.slotName ∈ around.memberNames ∧
      ¬ (around.statics.find? (·.name == around.settings.slotName)).any around.settings.isSlot)
    (and_congr_right fun _ => not_congr around.find?_eq_slot_iff.symm)

def diagnosed (field : Field) (problem : Problem) : Outcome :=
  .diagnosed ⟨around.className, field.name, problem⟩

/-- The outcome of a field that is not repeated and waits for the given fixed value. -/
def singleOutcome (field : Field) (value : String) : Except LiteralFault Outcome :=
  match field.type with
  | .text => .ok (.initialized (.text value))
  | .boolean => (readBoolean value).map fun b => .initialized (.boolean b)
  | .byte => (readNarrow .bits8 value).map fun n => .initialized (.int n)
  | .short => (readNarrow .bits16 value).map fun n => .initialized (.int n)
  | .int => (readNarrow .bits32 value).map fun n => .initialized (.int n)
  | .long => (readLong value).map fun n => .initialized (.long n)
  | .float => (readSingle value).map fun bits => .initialized (.float bits)
  | .double => (readDouble value).map fun bits => .initialized (.double bits)
  | .enumeration name =>
    match findEnumConstant around.enums name value with
    | .ok constant => .ok (.initialized (.enumConstant name constant.name))
    | .error fault => .ok (around.diagnosed field (.enumLookup fault))
  | .calendar =>
    if around.SlotInTheWay then
      let fault := MemberFault.duplicateMember around.className around.settings.slotName
      .ok (around.diagnosed field (.slotRefused around.settings.slotName fault.message))
    else .ok (.initialized (temporalExpr around.settings.slotName value))
  | .dataClass typeName => .ok (around.diagnosed field (.unsupportedType typeName value))
  | .foreign _ typeName => .ok (around.diagnosed field (.unsupportedType typeName value))

def valueOutcome (field : Field) (value : String) : Except LiteralFault Outcome :=
  if field.repeated then
    .ok (around.diagnosed field (.unsupportedType ("Vec<" ++ field.type.typeName ++ ">") value))
  else around.singleOutcome field value

/-- **The outcome of a field**, or the malformed value that ends the pass there. -/
def outcome (field : Field) : Except MalformedValue Outcome :=
  match field.origin with
  | .attribute _ => .ok (.skipped .notParticle)
  | .synthetic => .ok (.skipped .notParticle)
  | .particle (.element _ decl) =>
    match decl.fixedValue, field.initializer with
    | none, _ => .ok (.skipped .noFixedValue)
    | some _, some _ => .ok (.skipped .alreadyInitialized)
    | some value, none =>
      (around.valueOutcome field value).mapError fun fault =>
        { className := around.className, field := field.name, value, fault }
  | .particle _ => .ok (.skipped .notElement)

/-- **The field is initialized through the slot**: it is a single date or time with a fixed value
and no initializer, and the slot can be had. -/
def UsesSlot (field : Field) : Prop :=
  (field.type = .calendar ∧ field.repeated = false ∧ field.initializer.isNone ∧
    field.fixedText?.isSome) ∧ ¬ around.SlotInTheWay

instance (field : Field) : Decidable (around.UsesSlot field) :=
  inferInstanceAs (Decidable (_ ∧ _))

/-- The field as its outcome leaves it. Where there is no outcome, the field is as it was. -/
def settle (field : Field) : Field :=
  match around.outcome field with
  | .ok outcome => field.after outcome
  | .error _ => field

/-- The pass goes on behind the field. -/
def settles (field : Field) : Bool := (around.outcome field).isOk

/-- The malformed value of a field at which the pass ends. -/
def fault? (field : Field) : Option MalformedValue :=
  match around.outcome field with
  | .ok _ => none
  | .error fault => some fault

/-- The entry of a field in the report. -/
def entry (field : Field) : Except MalformedValue FieldReport :=
  (around.outcome field).map fun outcome => ⟨around.className, field.name, outcome⟩

/-- **The static members once fields have been settled.** The slot is new if one of the fields uses
it and no member has its name. -/
def staticsAfter (fields : List Field) : List StaticMember :=
  if around.settings.slotName ∉ around.memberNames ∧ ∃ field ∈ fields, around.UsesSlot field then
    around.statics ++ [around.settings.slot]
  else around.statics

end Surroundings

/-- The class with all its fields settled. -/
def DataClass.settle (c : DataClass) (enums : List Enumeration) (settings : Settings) : DataClass :=
  { c with
    fields := c.fields.map (c.surroundings enums settings).settle
    statics := (c.surroundings enums settings).staticsAfter c.fields }

/-! ### What outcomes are like -/

section

variable {around : Surroundings} {field : Field}

/-- Only a field without initializer that stems from an element with a fixed value is
initialized. -/
theorem Surroundings.valueOutcome_of_initialized {expr : Expr}
    (initialized : around.outcome field = .ok (.initialized expr)) :
    field.initializer = none ∧
      ∃ occurs decl value, field.origin = .particle (.element occurs decl) ∧
        decl.fixedValue = some value ∧ around.valueOutcome field value = .ok (.initialized expr) := by
  unfold outcome at initialized
  split at initialized
  · simp at initialized
  · simp at initialized
  · rename_i occurs decl origin
    split at initialized
    · simp at initialized
    · simp at initialized
    · rename_i value fixed free
      refine ⟨free, occurs, decl, value, origin, fixed, ?_⟩
      cases read : around.valueOutcome field value with
      | error fault =>
        rw [read] at initialized
        exact nomatch initialized
      | ok outcome =>
        rw [read] at initialized
        have same : outcome = .initialized expr := Except.ok.inj initialized
        rw [same]
  · simp at initialized

/-- **An initializer changes exactly where the outcome is an initializer**, and then from none. -/
theorem Surroundings.settle_cases (around : Surroundings) (field : Field) :
    (∃ expr, around.outcome field = .ok (.initialized expr) ∧ field.initializer = none ∧
        around.settle field = { field with initializer := some expr }) ∨
      ((∀ expr, around.outcome field ≠ .ok (.initialized expr)) ∧ around.settle field = field) := by
  cases read : around.outcome field with
  | error fault => exact .inr ⟨by simp, by simp [settle, read]⟩
  | ok outcome =>
    cases outcome with
    | initialized expr =>
      exact .inl ⟨expr, rfl, (valueOutcome_of_initialized read).1, by
        simp [settle, read, Field.after]⟩
    | skipped reason => exact .inr ⟨by simp, by simp [settle, read, Field.after]⟩
    | diagnosed diagnostic => exact .inr ⟨by simp, by simp [settle, read, Field.after]⟩

end

/-! ### Fields that wait for a date -/

/-- **The field waits for a date**: it is a single date or time that stems from an element with a
fixed value, and has no initializer. -/
structure Field.AwaitsDate (field : Field) (value : String) : Prop where
  date : field.type = .calendar
  single : field.repeated = false
  free : field.initializer = none
  fixed : field.fixedValue = .ok value

theorem Field.fixedValue_eq_ok_iff {field : Field} {value : String} :
    field.fixedValue = .ok value ↔ field.fixedText? = some value := by
  unfold fixedValue fixedText?
  rcases field.origin with particle | _ | _
  · cases particle with
    | element occurs decl => cases fixed : decl.fixedValue <;> simp [Particle.element?, fixed]
    | groupRef | compositor | wildcard => simp [Particle.element?]
  · simp
  · simp

/-- Why the dates of a class are refused: another member has the name of the slot. -/
def slotRefusal (className : String) (settings : Settings) : Problem :=
  .slotRefused settings.slotName
    (MemberFault.duplicateMember className settings.slotName).message

namespace Surroundings

variable {around : Surroundings} {field : Field} {value : String}

/-- **What becomes of a date is decided by whether the slot can be had.** -/
theorem outcome_of_awaitsDate (awaits : field.AwaitsDate value) :
    around.outcome field = .ok
      (if around.SlotInTheWay then
        around.diagnosed field (slotRefusal around.className around.settings)
      else .initialized (temporalExpr around.settings.slotName value)) := by
  obtain ⟨date, single, free, fixed⟩ := awaits
  have text : field.fixedText? = some value := Field.fixedValue_eq_ok_iff.mp fixed
  unfold Field.fixedText? at text
  split at text
  · rename_i occurs decl origin
    simp only [outcome, origin, text, free, valueOutcome, single, singleOutcome, date,
      Bool.false_eq_true, if_false]
    split <;> rfl
  · exact nomatch text

theorem usesSlot_iff :
    around.UsesSlot field ↔ (∃ value, field.AwaitsDate value) ∧ ¬ around.SlotInTheWay := by
  refine and_congr_left fun _ => ⟨?_, ?_⟩
  · rintro ⟨date, single, free, fixed⟩
    obtain ⟨value, text⟩ := Option.isSome_iff_exists.mp fixed
    exact ⟨value, date, single, Option.isNone_iff_eq_none.mp free,
      Field.fixedValue_eq_ok_iff.mpr text⟩
  · rintro ⟨value, date, single, free, fixed⟩
    rw [Field.fixedValue_eq_ok_iff] at fixed
    exact ⟨date, single, Option.isNone_iff_eq_none.mpr free, fixed ▸ rfl⟩

end Surroundings

end SchemaBinding
