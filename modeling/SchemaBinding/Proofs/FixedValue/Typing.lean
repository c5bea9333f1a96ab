/-
**Initializers fit the fields that carry them.**

The model of a schema has no initializers, so all that a fixed-value pass leaves behind were
attached by the pass itself, also when a malformed value ended it half way. Each of them is an
expression of the type of its field (`Suits`): a literal of the type, within its range, or the
constant that stands for the fixed value, or a call through a static member that the class really
has.

The fields that carry one are single. That is what makes the type of a field and its default value
agree in generated code: `Field.sourceType` asks first whether a field is repeated,
`Field.sourceValue` only whether it is optional (`sourceValue_wrapped_iff`).
-/

import SchemaBinding.Proofs.FixedValue.ClosedForm
import SchemaBinding.Proofs.Model.ClassFields
import SchemaBinding.Proofs.Number.IntegerText
import SchemaBinding.Source.ClassSource

namespace SchemaBinding

/-- **An expression suits a type and a fixed value**, among the given enumerations and the static
members of its class. There is none for generated classes and for types from outside. -/
inductive Suits (enums : List Enumeration) (statics : List StaticMember) (value : String) :
    FieldType → Expr → Prop
  | text : Suits enums statics value .text (.text value)
  | boolean (b : Bool) : Suits enums statics value .boolean (.boolean b)
  | byte {n : Int32} (low : -128 ≤ n.toInt) (high : n.toInt ≤ 127) :
      Suits enums statics value .byte (.int n)
  | short {n : Int32} (low : -32768 ≤ n.toInt) (high : n.toInt ≤ 32767) :
      Suits enums statics value .short (.int n)
  | int {n : Int32} (low : -2147483648 ≤ n.toInt) (high : n.toInt ≤ 2147483647) :
      Suits enums statics value .int (.int n)
  | long (n : Int64) : Suits enums statics value .long (.long n)
  | float (bits : UInt32) : Suits enums statics value .float (.float bits)
  | double (bits : UInt64) : Suits enums statics value .double (.double bits)
  | enumeration {name : String} {enumeration : Enumeration} {constant : EnumConstant}
      (first : enums.find? (·.name == name) = some enumeration)
      (member : constant ∈ enumeration.constants) (lexical : constant.lexical = value) :
      Suits enums statics value (.enumeration name) (.enumConstant name constant.name)
  | calendar {slot : StaticMember} (member : slot ∈ statics) :
      Suits enums statics value .calendar
        (.invoke (.staticMember slot.name) "new_xml_gregorian_calendar" [.text value])

/-- **The initializer of a field, if it has one, suits it**: the field is single and stems from an
element whose fixed value the initializer is. -/
def Field.WellInitialized (enums : List Enumeration) (statics : List StaticMember)
    (field : Field) : Prop :=
  ∀ expr, field.initializer = some expr →
    field.repeated = false ∧
      ∃ occurs decl value, field.origin = .particle (.element occurs decl) ∧
        decl.fixedValue = some value ∧ Suits enums statics value field.type expr

/-! ### Literals keep their values -/

/-- A narrow literal lies in the range of its field. -/
theorem range_of_readNarrow {width : IntegerWidth} {value : String} {n : Int32}
    (read : readNarrow width value = .ok n) :
    -(twoPow width.magnitudeBits : Int) ≤ n.toInt ∧ n.toInt < twoPow width.magnitudeBits :=
  inRange_iff.mp (readNarrow_eq_ok_iff.mp read).2

/-- A constant that is found for a value stands for it, in the first enumeration of its name. -/
theorem of_findEnumConstant {enums : List Enumeration} {name value : String}
    {constant : EnumConstant} (found : findEnumConstant enums name value = .ok constant) :
    ∃ enumeration, enums.find? (·.name == name) = some enumeration ∧
      constant ∈ enumeration.constants ∧ constant.lexical = value := by
  unfold findEnumConstant at found
  split at found
  · simp at found
  · rename_i enumeration first
    split at found
    · simp at found
    · rename_i other hit
      rw [Except.ok.injEq] at found
      subst found
      exact ⟨enumeration, first, List.mem_of_find?_eq_some hit,
        by simpa using List.find?_some hit⟩

/-! ### The outcome of one field -/

section

variable {around : Surroundings} {field : Field} {value : String} {expr : Expr}
  {statics : List StaticMember}

/-- An initializer that comes from a reading is what was read. -/
theorem exists_of_map_initialized {α : Type} {read : Except LiteralFault α} {literal : α → Expr}
    (initialized : (read.map fun x => Outcome.initialized (literal x)) = .ok (.initialized expr)) :
    ∃ x, read = .ok x ∧ literal x = expr := by
  cases read with
  | error fault => simp [Except.map] at initialized
  | ok x => exact ⟨x, rfl, by simpa [Except.map] using initialized⟩

/-- An initializer that a single field gets suits its type, if the slot is there where it is
used. -/
theorem suits_of_singleOutcome
    (provided : field.type = .calendar → ¬ around.SlotInTheWay → around.settings.slot ∈ statics)
    (initialized : around.singleOutcome field value = .ok (.initialized expr)) :
    Suits around.enums statics value field.type expr := by
  unfold Surroundings.singleOutcome at initialized
  cases type : field.type with
  | text =>
    simp only [type, Except.ok.injEq, Outcome.initialized.injEq] at initialized
    exact initialized ▸ .text
  | boolean =>
    simp only [type] at initialized
    obtain ⟨b, -, rfl⟩ := exists_of_map_initialized initialized
    exact .boolean b
  | byte =>
    simp only [type] at initialized
    obtain ⟨n, read, rfl⟩ := exists_of_map_initialized initialized
    obtain ⟨low, high⟩ := range_of_readNarrow read
    have power : twoPow IntegerWidth.bits8.magnitudeBits = 128 := by decide
    exact .byte (by omega) (by omega)
  | short =>
    simp only [type] at initialized
    obtain ⟨n, read, rfl⟩ := exists_of_map_initialized initialized
    obtain ⟨low, high⟩ := range_of_readNarrow read
    have power : twoPow IntegerWidth.bits16.magnitudeBits = 32768 := by decide
    exact .short (by omega) (by omega)
  | int =>
    simp only [type] at initialized
    obtain ⟨n, read, rfl⟩ := exists_of_map_initialized initialized
    obtain ⟨low, high⟩ := range_of_readNarrow read
    have power : twoPow IntegerWidth.bits32.magnitudeBits = 2147483648 := by decide
    exact .int (by omega) (by omega)
  | long =>
    simp only [type] at initialized
    obtain ⟨n, -, rfl⟩ := exists_of_map_initialized initialized
    exact .long n
  | float =>
    simp only [type] at initialized
    obtain ⟨bits, -, rfl⟩ := exists_of_map_initialized initialized
    exact .float bits
  | double =>
    simp only [type] at initialized
    obtain ⟨bits, -, rfl⟩ := exists_of_map_initialized initialized
    exact .double bits
  | enumeration name =>
    cases found : findEnumConstant around.enums name value with
    | error fault => simp [type, found, Surroundings.diagnosed] at initialized
    | ok constant =>
      simp only [type, found, Except.ok.injEq, Outcome.initialized.injEq] at initialized
      obtain ⟨enumeration, first, member, lexical⟩ := of_findEnumConstant found
      exact initialized ▸ .enumeration first member lexical
  | calendar =>
    by_cases blocked : around.SlotInTheWay
    · simp [type, blocked, Surroundings.diagnosed] at initialized
    · simp only [type, blocked, if_false, Except.ok.injEq, Outcome.initialized.injEq] at initialized
      exact initialized ▸ .calendar (provided type blocked)
  | dataClass name => simp [type, Surroundings.diagnosed] at initialized
  | foreign name typeName => simp [type, Surroundings.diagnosed] at initialized

/-- **An initializer that a pass attaches suits its field**, if the slot is there where it is
used. -/
theorem wellInitialized_settle (fresh : field.initializer = none)
    (provided : around.UsesSlot field → around.settings.slot ∈ statics) :
    (around.settle field).WellInitialized around.enums statics := by
  intro expr carried
  rcases around.settle_cases field with ⟨result, initialized, -, settled⟩ | ⟨-, settled⟩
  · rw [settled, Option.some.injEq] at carried
    subst carried
    obtain ⟨initial, occurs, decl, value, origin, fixed, read⟩ :=
      Surroundings.valueOutcome_of_initialized initialized
    rw [settled]
    have single : field.repeated = false := Bool.eq_false_iff.mpr fun repeated => by
      simp [Surroundings.valueOutcome, repeated, Surroundings.diagnosed] at read
    refine ⟨single, occurs, decl, value, origin, fixed, ?_⟩
    rw [Surroundings.valueOutcome, if_neg (by simp [single])] at read
    refine suits_of_singleOutcome (fun calendar free => ?_) read
    refine provided ⟨⟨calendar, single, ?_, ?_⟩, free⟩
    · rw [initial]
      rfl
    · simp [Field.fixedText?, origin, fixed]
  · rw [settled, fresh] at carried
    simp at carried

end

/-! ### A whole pass -/

theorem slot_mem_staticsAfter {around : Surroundings} {fields : List Field} {field : Field}
    (member : field ∈ fields) (uses : around.UsesSlot field) :
    around.settings.slot ∈ around.staticsAfter fields := by
  unfold Surroundings.staticsAfter
  by_cases taken : around.settings.slotName ∈ around.memberNames
  · rw [if_neg fun both => both.1 taken]
    have found : around.statics.find? (·.name == around.settings.slotName) =
        some around.settings.slot := Classical.not_not.mp fun other => uses.2 ⟨taken, other⟩
    exact List.mem_of_find?_eq_some found
  · rw [if_pos ⟨taken, field, member, uses⟩]
    exact List.mem_append_right _ List.mem_cons_self

/-- A scan of a class without initializers leaves its fields well initialized. -/
theorem wellInitialized_of_mem_scan {c : DataClass} {enums : List Enumeration} {settings : Settings}
    (fresh : ∀ field ∈ c.fields, field.initializer = none) {field : Field}
    (member : field ∈ (c.scan enums settings).result.fields) :
    field.WellInitialized enums (c.scan enums settings).result.statics := by
  have parts := List.takeWhile_append_dropWhile
    (p := (c.surroundings enums settings).settles) (l := c.fields)
  rw [(scan_eq c enums settings).1] at member ⊢
  rcases List.mem_append.mp member with visited | left
  · obtain ⟨before, mem, rfl⟩ := List.mem_map.mp visited
    have old : before ∈ c.fields := parts ▸ List.mem_append_left _ mem
    exact wellInitialized_settle (fresh before old) fun uses => slot_mem_staticsAfter mem uses
  · have old : field ∈ c.fields := parts ▸ List.mem_append_right _ left
    intro expr carried
    rw [fresh field old] at carried
    simp at carried

/-- Every class that a pass leaves behind was scanned or is as it was. -/
theorem mem_scanClasses {enums : List Enumeration} {settings : Settings} {classes : List DataClass}
    {d : DataClass} (member : d ∈ (scanClasses enums settings classes).classes) :
    ∃ c ∈ classes, d = (c.scan enums settings).result ∨ d = c := by
  induction classes with
  | nil => simp [scanClasses] at member
  | cons c rest ih =>
    rw [scanClasses] at member
    cases fault : (c.scan enums settings).fault with
    | some malformed =>
      simp only [fault, List.mem_cons] at member
      rcases member with rfl | later
      · exact ⟨c, List.mem_cons_self, .inl rfl⟩
      · exact ⟨d, List.mem_cons_of_mem c later, .inr rfl⟩
    | none =>
      simp only [fault, List.mem_cons] at member
      rcases member with rfl | later
      · exact ⟨c, List.mem_cons_self, .inl rfl⟩
      · obtain ⟨old, mem, origin⟩ := ih later
        exact ⟨old, List.mem_cons_of_mem c mem, origin⟩

/-! ### The occurrence wrappers of generated code -/

/-- The default value of a field as it is written before it is wrapped into an option. -/
def Field.bareValue (field : Field) : String := { field with optional := false }.sourceValue

/-- The default value is wrapped if there is an initializer and the field is optional. -/
theorem sourceValue_eq (field : Field) :
    field.sourceValue =
      if field.initializer.isSome ∧ field.optional then "Some(" ++ field.bareValue ++ ")"
      else field.bareValue := by
  unfold Field.bareValue Field.sourceValue
  cases field.initializer <;> cases field.optional <;> simp

/-- The type is an option if the field is optional and not repeated. -/
theorem sourceType_eq_option_iff (field : Field) :
    field.sourceType = "Option<" ++ field.type.typeName ++ ">" ↔
      field.repeated = false ∧ field.optional = true := by
  unfold Field.sourceType
  refine ⟨fun written => ?_, fun ⟨single, optional⟩ => by simp [single, optional]⟩
  have vec : "Vec<".length = 4 := rfl
  have option : "Option<".length = 7 := rfl
  have length := congrArg String.length written
  by_cases repeated : field.repeated = true
  · rw [if_pos repeated] at length
    simp only [String.length_append] at length
    omega
  · rw [if_neg repeated] at length
    by_cases optional : field.optional = true
    · exact ⟨by simpa using repeated, optional⟩
    · rw [if_neg optional] at length
      simp only [String.length_append] at length
      omega

/-- **The value of a field is wrapped exactly if it has an initializer and its type is an option**,
provided that fields with an initializer are single. -/
theorem sourceValue_wrapped_iff {field : Field}
    (single : field.initializer.isSome → field.repeated = false) :
    field.sourceValue = "Some(" ++ field.bareValue ++ ")" ↔
      field.initializer.isSome ∧ field.sourceType = "Option<" ++ field.type.typeName ++ ">" := by
  rw [sourceType_eq_option_iff, sourceValue_eq]
  by_cases wrapped : field.initializer.isSome ∧ field.optional
  · rw [if_pos wrapped]
    exact ⟨fun _ => ⟨wrapped.1, single wrapped.1, wrapped.2⟩, fun _ => rfl⟩
  · rw [if_neg wrapped]
    refine ⟨fun written => ?_, fun ⟨initialized, _, optional⟩ =>
      (wrapped ⟨initialized, optional⟩).elim⟩
    have some : "Some(".length = 5 := rfl
    have length := congrArg String.length written
    simp only [String.length_append] at length
    omega

/-- **All defaults are well typed.** Whatever the schema and the settings, and whether or not a
malformed value ends the pass: a field that carries an initializer is single and stems from an
element with a fixed value, and the initializer suits the type of the field and this value. So the
value of a field is wrapped into an option exactly if it is an initializer and the type of the field
is an option. -/
theorem wellInitialized_applyFixedValues (schema : Schema) (settings : Settings) :
    let pass := (Model.ofSchema schema).applyFixedValues settings
    ∀ c ∈ pass.model.classes, ∀ field ∈ c.fields,
      field.WellInitialized pass.model.enums c.statics ∧
        (field.sourceValue = "Some(" ++ field.bareValue ++ ")" ↔
          field.initializer.isSome ∧
            field.sourceType = "Option<" ++ field.type.typeName ++ ">") := by
  intro pass c class_mem field member
  have suits : field.WellInitialized pass.model.enums c.statics := by
    obtain ⟨before, old, rfl | rfl⟩ := mem_scanClasses class_mem
    · exact wellInitialized_of_mem_scan (fun f mem => initializer_of_mem_ofSchema old mem) member
    · intro expr carried
      rw [initializer_of_mem_ofSchema old member] at carried
      simp at carried
  refine ⟨suits, sourceValue_wrapped_iff fun initialized => ?_⟩
  obtain ⟨expr, carried⟩ := Option.isSome_iff_exists.mp initialized
  exact (suits expr carried).1

/-- A type with a date that is fixed but optional, in front of a number that is malformed. -/
def datedOrder : Schema where
  complexTypes := [{
    name := "order"
    particles := [.compositor {} .sequence [
      .element { min := 0 } { name := "day", typeName := "xs:date", fixedValue := "2020-02-29" },
      .element {} { name := "count", typeName := "xs:int", fixedValue := "7.5" }]] }]

/-- The date of an order is well initialized although the pass ends at the number behind it. -/
theorem wellInitialized_datedOrder :
    let pass := (Model.ofSchema datedOrder).applyFixedValues {}
    pass.fault.isSome ∧ ∃ c ∈ pass.model.classes, ∃ field ∈ c.fields, field.initializer.isSome ∧
      field.WellInitialized pass.model.enums c.statics ∧
        (field.sourceValue = "Some(" ++ field.bareValue ++ ")" ↔
          field.initializer.isSome ∧
            field.sourceType = "Option<" ++ field.type.typeName ++ ">") := by
  refine ⟨by decide +kernel, ?_⟩
  have initialized : ((Model.ofSchema datedOrder).applyFixedValues {}).model.classes.any
      (fun c => c.fields.any (·.initializer.isSome)) = true := by decide +kernel
  obtain ⟨c, class_mem, some⟩ := List.any_eq_true.mp initialized
  obtain ⟨field, member, carried⟩ := List.any_eq_true.mp some
  exact ⟨c, class_mem, field, member, carried,
    wellInitialized_applyFixedValues datedOrder {} c class_mem field member⟩

end SchemaBinding
