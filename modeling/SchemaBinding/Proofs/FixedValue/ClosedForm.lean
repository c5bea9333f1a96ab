/-
**The fixed-value pass in closed form.**

A pass threads two things through the fields of a class: the class itself, which gets the slot when
it is first needed, and the name of the slot once it is known to be there. Both are determined by
one bit: whether one of the fields so far uses the slot (`DataClass.scanState`). So the visit of a
field in the middle of a pass is the outcome of the field on its own (`visit_scanState`), and a scan
is the outcomes of the fields up to the first malformed value (`scanFields_scanState`).

`applyFixedValues_closed_form`: a pass that comes to its end reports the outcome of every field, and
leaves every class settled on its own.
-/

import SchemaBinding.Proofs.FixedValue.Outcome

namespace SchemaBinding

/-! ### The slot of a class -/

/-- The class with the slot, which is added if it is not there. -/
def DataClass.withSlot (c : DataClass) (settings : Settings) : DataClass :=
  if c.hasSlot settings then c else { c with statics := c.statics ++ [settings.slot] }

section

variable (c : DataClass) (enums : List Enumeration) (settings : Settings)

@[simp] theorem name_withSlot : (c.withSlot settings).name = c.name := by
  unfold DataClass.withSlot
  split <;> rfl

theorem hasSlot_iff :
    c.hasSlot settings = true ↔ c.static? settings.slotName = some settings.slot :=
  (c.surroundings [] settings).find?_eq_slot_iff.symm

theorem slotName_mem_of_hasSlot (has : c.hasSlot settings = true) :
    settings.slotName ∈ c.memberNames := by
  have found := List.mem_of_find?_eq_some ((hasSlot_iff c settings).mp has)
  exact List.mem_append_right _ (List.mem_map_of_mem (f := (·.name)) found)

/-- Where the slot can be had, it is there exactly if a member has its name. -/
theorem hasSlot_iff_of_free (free : ¬ (c.surroundings enums settings).SlotInTheWay) :
    c.hasSlot settings = true ↔ settings.slotName ∈ c.memberNames := by
  refine ⟨slotName_mem_of_hasSlot c settings, fun taken => ?_⟩
  rw [hasSlot_iff]
  exact Classical.not_not.mp fun other => free ⟨taken, other⟩

/-- **Asking for the slot is refused exactly if another member has its name.** -/
theorem ensureSlot_eq :
    c.ensureSlot settings =
      if (c.surroundings enums settings).SlotInTheWay then
        .error (.duplicateMember c.name settings.slotName)
      else .ok (c.withSlot settings) := by
  by_cases has : c.hasSlot settings = true
  · have free : ¬ (c.surroundings enums settings).SlotInTheWay := fun blocked =>
      blocked.2 ((hasSlot_iff c settings).mp has)
    rw [if_neg free, DataClass.ensureSlot, if_pos has, DataClass.withSlot, if_pos has]
  · have name : settings.slot.name = settings.slotName := rfl
    rw [DataClass.ensureSlot, if_neg has, DataClass.addStatic, name, DataClass.withSlot, if_neg has]
    by_cases taken : settings.slotName ∈ c.memberNames
    · have blocked : (c.surroundings enums settings).SlotInTheWay :=
        ⟨taken, fun found => has ((hasSlot_iff c settings).mpr found)⟩
      rw [if_pos blocked, if_pos (DataClass.hasMember_iff.mpr taken)]
    · have free : ¬ (c.surroundings enums settings).SlotInTheWay := fun blocked => taken blocked.1
      rw [if_neg free, if_neg fun member => taken (DataClass.hasMember_iff.mp member)]

/-- The static members of a class that got the slot because it could be had. -/
theorem statics_withSlot (free : ¬ (c.surroundings enums settings).SlotInTheWay) :
    (c.withSlot settings).statics =
      if settings.slotName ∉ c.memberNames then c.statics ++ [settings.slot] else c.statics := by
  by_cases taken : settings.slotName ∈ c.memberNames
  · have has := (hasSlot_iff_of_free c enums settings free).mpr taken
    rw [if_neg (not_not_intro taken), DataClass.withSlot, if_pos has]
  · have absent := mt (hasSlot_iff_of_free c enums settings free).mp taken
    rw [if_pos taken, DataClass.withSlot, if_neg absent]

/-! ### The state of a scan -/

/-- The class and the slot known in it, after fields of which one used the slot or none did. -/
def DataClass.scanState (used : Bool) : DataClass × Option String :=
  if used then (c.withSlot settings, some settings.slotName) else (c, none)

@[simp] theorem name_scanState (used : Bool) : (c.scanState settings used).1.name = c.name := by
  cases used
  · rfl
  · exact name_withSlot c settings

/-- What is logged when a field uses the slot: that it was added, if it was. -/
def DataClass.slotLog (used : Bool) : List LogEvent :=
  if used || c.hasSlot settings then [] else [.slotAdded c.name settings.slotName]

/-- Asking for the slot, whether or not it is known already. -/
theorem slotFor_scanState (used : Bool)
    (free : used = true → ¬ (c.surroundings enums settings).SlotInTheWay) :
    (c.scanState settings used).1.slotFor settings (c.scanState settings used).2 =
      if (c.surroundings enums settings).SlotInTheWay then
        .error (.duplicateMember c.name settings.slotName)
      else .ok (c.withSlot settings, settings.slotName, c.slotLog settings used) := by
  cases used with
  | true =>
    rw [if_neg (free rfl)]
    rfl
  | false =>
    show (c.ensureSlot settings).map _ = _
    rw [ensureSlot_eq c enums settings]
    by_cases blocked : (c.surroundings enums settings).SlotInTheWay
    · rw [if_pos blocked, if_pos blocked]
      rfl
    · rw [if_neg blocked, if_neg blocked]
      rfl

/-! ### The visit of a field -/

/-- What the visit of a field leaves behind, given the outcome of the field. -/
def DataClass.visited (used : Bool) (field : Field) (outcome : Outcome) : Visit :=
  let uses : Bool := (c.surroundings enums settings).UsesSlot field
  { owner := (c.scanState settings (used || uses)).1
    slot := (c.scanState settings (used || uses)).2
    outcome
    log := if uses then c.slotLog settings used else [] }

theorem visited_of_not_usesSlot (used : Bool) {field : Field}
    (unused : ¬ (c.surroundings enums settings).UsesSlot field) :
    c.visited enums settings used field =
      (c.scanState settings used).1.unchanged (c.scanState settings used).2 := by
  funext outcome
  simp [DataClass.visited, DataClass.unchanged, unused]

/-- A field that is repeated, or no date or time, leaves its class as it is. -/
theorem visitValue_of_not_temporal (used : Bool) {field : Field} (value : String)
    (other : field.repeated = true ∨ field.type ≠ .calendar) :
    (c.scanState settings used).1.visitValue enums settings (c.scanState settings used).2 field
        value =
      ((c.surroundings enums settings).valueOutcome field value).map
        (c.visited enums settings used field) := by
  have unused : ¬ (c.surroundings enums settings).UsesSlot field := by
    rintro ⟨⟨calendar, single, _⟩, _⟩
    rcases other with repeated | type
    · simp [repeated] at single
    · exact type calendar
  rw [visited_of_not_usesSlot c enums settings used unused]
  unfold DataClass.visitValue Surroundings.valueOutcome LiteralKind.ofField
  rw [name_scanState]
  by_cases repeated : field.repeated = true
  · rw [if_pos repeated, if_pos repeated]
    rfl
  · rw [if_neg repeated, if_neg repeated]
    unfold Surroundings.singleOutcome
    cases type : field.type with
    | calendar => exact absurd type (other.resolve_left repeated)
    | boolean => cases readBoolean value <;> rfl
    | byte => cases read : readNarrow .bits8 value <;> simp [read, Except.map]
    | short => cases read : readNarrow .bits16 value <;> simp [read, Except.map]
    | int => cases read : readNarrow .bits32 value <;> simp [read, Except.map]
    | long => cases readLong value <;> rfl
    | float => cases readSingle value <;> rfl
    | double => cases readDouble value <;> rfl
    | enumeration name =>
      cases found : findEnumConstant enums name value with
      | error fault =>
        simp only [enums_surroundings, found]
        rfl
      | ok constant =>
        simp only [enums_surroundings, found]
        rfl
    | text | dataClass | foreign => rfl

/-- A single date or time that waits for its value gets the slot, if it can be had. -/
theorem visitValue_of_temporal (used : Bool) {field : Field} {value : String}
    (free : used = true → ¬ (c.surroundings enums settings).SlotInTheWay)
    (waits : field.type = .calendar ∧ field.repeated = false ∧ field.initializer.isNone ∧
      field.fixedText?.isSome) :
    (c.scanState settings used).1.visitValue enums settings (c.scanState settings used).2 field
        value =
      ((c.surroundings enums settings).valueOutcome field value).map
        (c.visited enums settings used field) := by
  have ⟨calendar, single, _⟩ := waits
  have asked := slotFor_scanState c enums settings used free
  have kind : LiteralKind.ofField field = .temporal := by
    simp [LiteralKind.ofField, single, calendar]
  simp only [DataClass.visitValue, kind, asked, Surroundings.valueOutcome, single,
    Surroundings.singleOutcome, calendar]
  by_cases blocked : (c.surroundings enums settings).SlotInTheWay
  · have unused : ¬ (c.surroundings enums settings).UsesSlot field := fun uses => uses.2 blocked
    rw [visited_of_not_usesSlot c enums settings used unused]
    simp [blocked, Except.map, Surroundings.diagnosed, DataClass.unchanged]
  · have uses : (c.surroundings enums settings).UsesSlot field := ⟨waits, blocked⟩
    simp [blocked, Except.map, DataClass.visited, uses, DataClass.scanState]

theorem visitValue_scanState (used : Bool) {field : Field} {value : String}
    (free : used = true → ¬ (c.surroundings enums settings).SlotInTheWay)
    (initial : field.initializer.isNone) (fixed : field.fixedText? = some value) :
    (c.scanState settings used).1.visitValue enums settings (c.scanState settings used).2 field
        value =
      ((c.surroundings enums settings).valueOutcome field value).map
        (c.visited enums settings used field) := by
  by_cases repeated : field.repeated = true
  · exact visitValue_of_not_temporal c enums settings used value (.inl repeated)
  · by_cases calendar : field.type = .calendar
    · exact visitValue_of_temporal c enums settings used free
        ⟨calendar, by simpa using repeated, initial, by rw [fixed]; rfl⟩
    · exact visitValue_of_not_temporal c enums settings used value (.inr calendar)

/-- **The visit of a field in the middle of a pass is the outcome of the field on its own.** -/
theorem visit_scanState (used : Bool) (field : Field)
    (free : used = true → ¬ (c.surroundings enums settings).SlotInTheWay) :
    (c.scanState settings used).1.visit enums settings (c.scanState settings used).2 field =
      ((c.surroundings enums settings).outcome field).map
        (c.visited enums settings used field) := by
  unfold DataClass.visit Surroundings.outcome Field.fixedValue
  have plain (unused : ¬ (c.surroundings enums settings).UsesSlot field) (reason : SkipReason) :
      .ok ((c.scanState settings used).1.unchanged (c.scanState settings used).2
          (.skipped reason)) =
        (Except.ok (.skipped reason) : Except MalformedValue Outcome).map
          (c.visited enums settings used field) := by
    rw [visited_of_not_usesSlot c enums settings used unused]
    rfl
  rcases origin : field.origin with particle | decl | _
  · cases particle with
    | groupRef | compositor | wildcard =>
      exact plain (by simp [Surroundings.UsesSlot, Field.fixedText?, origin]) _
    | element occurs decl =>
      simp only [Particle.element?]
      cases fixed : decl.fixedValue with
      | none => exact plain (by simp [Surroundings.UsesSlot, Field.fixedText?, origin, fixed]) _
      | some value =>
        cases initial : field.initializer with
        | some expr => exact plain (by simp [Surroundings.UsesSlot, initial]) _
        | none =>
          have value_eq := visitValue_scanState c enums settings used free
            (show field.initializer.isNone by rw [initial]; rfl)
            (show field.fixedText? = some value by rw [Field.fixedText?, origin]; exact fixed)
          simp only [Option.isSome_none, Bool.false_eq_true, if_false, value_eq, name_scanState]
          cases (c.surroundings enums settings).valueOutcome field value <;> rfl
  · exact plain (by simp [Surroundings.UsesSlot, Field.fixedText?, origin]) _
  · exact plain (by simp [Surroundings.UsesSlot, Field.fixedText?, origin]) _

/-! ### The scan of a class -/

/-- **A scan is the outcomes of the fields up to the first malformed value**, and leaves that field
and all later ones as they are. -/
theorem scanFields_scanState (used : Bool) (fields : List Field)
    (free : used = true → ¬ (c.surroundings enums settings).SlotInTheWay) :
    let around := c.surroundings enums settings
    let scan := scanFields enums settings (c.scanState settings used).1
      (c.scanState settings used).2 fields
    let visited := fields.takeWhile around.settles
    let left := fields.dropWhile around.settles
    scan.fields = visited.map around.settle ++ left ∧
      scan.statics = (c.scanState settings (used || visited.any (around.UsesSlot ·))).1.statics ∧
      scan.report.map .ok = visited.map around.entry ∧
      scan.fault = left.head?.bind around.fault? := by
  induction fields generalizing used with
  | nil => simp [scanFields]
  | cons field rest ih =>
    dsimp only
    rw [scanFields, visit_scanState c enums settings used field free]
    cases read : (c.surroundings enums settings).outcome field with
    | error fault =>
      have stops : (c.surroundings enums settings).settles field = false := by
        rw [Surroundings.settles, read]
        rfl
      rw [List.takeWhile_cons_of_neg (by simp [stops]),
        List.dropWhile_cons_of_neg (by simp [stops])]
      simp [Except.map, Surroundings.fault?, read]
    | ok outcome =>
      have goes : (c.surroundings enums settings).settles field = true := by
        rw [Surroundings.settles, read]
        rfl
      -- The rest begins where this field leaves off: the slot is in use if it was or is now.
      have later := ih (used || decide ((c.surroundings enums settings).UsesSlot field)) (by
        intro next
        rcases Bool.or_eq_true_iff.mp next with before | now
        · exact free before
        · exact (of_decide_eq_true now).2)
      obtain ⟨fieldsEq, staticsEq, reportEq, faultEq⟩ := later
      rw [List.takeWhile_cons_of_pos goes, List.dropWhile_cons_of_pos goes]
      refine ⟨?_, ?_, ?_, faultEq⟩
      · show field.after outcome :: _ = _
        rw [List.map_cons, List.cons_append, ← fieldsEq, Surroundings.settle, read]
        rfl
      · rw [List.any_cons, ← Bool.or_assoc]
        exact staticsEq
      · show Except.ok _ :: _ = _
        rw [List.map_cons, ← reportEq, Surroundings.entry, read, name_scanState]
        rfl

theorem statics_scanState (fields : List Field) :
    (c.scanState settings (fields.any ((c.surroundings enums settings).UsesSlot ·))).1.statics =
      (c.surroundings enums settings).staticsAfter fields := by
  unfold Surroundings.staticsAfter
  by_cases used : ∃ field ∈ fields, (c.surroundings enums settings).UsesSlot field
  · have free : ¬ (c.surroundings enums settings).SlotInTheWay := by
      obtain ⟨field, -, uses⟩ := used
      exact uses.2
    have any : fields.any ((c.surroundings enums settings).UsesSlot ·) = true := by
      simpa using used
    rw [any, DataClass.scanState, if_pos rfl]
    show (c.withSlot settings).statics = _
    rw [statics_withSlot c enums settings free]
    simp only [used, and_true]
    rfl
  · have none : fields.any ((c.surroundings enums settings).UsesSlot ·) = false := by
      simpa using used
    rw [none, if_neg fun both => used both.2]
    rfl

theorem scan_eq :
    let around := c.surroundings enums settings
    let scan := c.scan enums settings
    let visited := c.fields.takeWhile around.settles
    let left := c.fields.dropWhile around.settles
    scan.result =
        { c with
          fields := visited.map around.settle ++ left
          statics := around.staticsAfter visited } ∧
      scan.report.map .ok = visited.map around.entry ∧
      scan.fault = left.head?.bind around.fault? := by
  obtain ⟨fieldsEq, staticsEq, reportEq, faultEq⟩ :=
    scanFields_scanState c enums settings false c.fields (by simp)
  refine ⟨?_, reportEq, faultEq⟩
  rw [Bool.false_or, statics_scanState c enums settings] at staticsEq
  rw [← fieldsEq, ← staticsEq]
  rfl

/-- A scan without a fault leaves no field out. -/
theorem dropWhile_settles_of_finished (finished : (c.scan enums settings).fault = none) :
    c.fields.dropWhile (c.surroundings enums settings).settles = [] := by
  rw [(scan_eq c enums settings).2.2] at finished
  cases left : c.fields.dropWhile (c.surroundings enums settings).settles with
  | nil => rfl
  | cons field rest =>
    have stops := List.head?_dropWhile_not (c.surroundings enums settings).settles c.fields
    rw [left] at stops finished
    have fault : (c.surroundings enums settings).fault? field = none := finished
    unfold Surroundings.fault? at fault
    cases read : (c.surroundings enums settings).outcome field with
    | ok outcome => simp [Surroundings.settles, read, Except.isOk, Except.toBool] at stops
    | error malformed => simp [read] at fault

theorem scan_of_finished (finished : (c.scan enums settings).fault = none) :
    (c.scan enums settings).result = c.settle enums settings ∧
      (c.scan enums settings).report.map .ok =
        c.fields.map (c.surroundings enums settings).entry := by
  have none := dropWhile_settles_of_finished c enums settings finished
  have all := List.takeWhile_append_dropWhile
    (p := (c.surroundings enums settings).settles) (l := c.fields)
  rw [none, List.append_nil] at all
  obtain ⟨resultEq, reportEq, -⟩ := scan_eq c enums settings
  rw [resultEq, reportEq, all, none, List.append_nil]
  exact ⟨rfl, rfl⟩

end

/-! ### The pass over a model -/

theorem scanClasses_of_finished (enums : List Enumeration) (settings : Settings)
    (classes : List DataClass) (finished : (scanClasses enums settings classes).fault = none) :
    (scanClasses enums settings classes).classes = classes.map (·.settle enums settings) ∧
      (scanClasses enums settings classes).report.map .ok =
        classes.flatMap fun c => c.fields.map (c.surroundings enums settings).entry := by
  induction classes with
  | nil => exact ⟨rfl, rfl⟩
  | cons c rest ih =>
    rw [scanClasses] at finished ⊢
    cases fault : (c.scan enums settings).fault with
    | some malformed => simp [fault] at finished
    | none =>
      simp only [fault] at finished ⊢
      obtain ⟨resultEq, reportEq⟩ := scan_of_finished c enums settings fault
      obtain ⟨classesEq, laterEq⟩ := ih finished
      refine ⟨?_, ?_⟩
      · rw [resultEq, classesEq, List.map_cons]
      · rw [List.map_append, reportEq, laterEq, List.flatMap_cons]

/-- **The pass in closed form.** A pass that comes to its end reports the outcome of every field in
order, where an outcome depends on the field and on what stood around it before the pass. The
model is as it was but for two things: fields are settled, so that an initializer changes exactly
where the outcome is one, and then from none; and a class gets the slot if one of its fields uses
it and no member has its name. -/
theorem applyFixedValues_closed_form (model : Model) (settings : Settings)
    (finished : (model.applyFixedValues settings).fault = none) :
    let around (c : DataClass) := c.surroundings model.enums settings
    let pass := model.applyFixedValues settings
    pass.report.map .ok = model.classes.flatMap (fun c => c.fields.map (around c).entry) ∧
      pass.model = { model with classes := model.classes.map (·.settle model.enums settings) } ∧
      ∀ c ∈ model.classes, ∀ field ∈ c.fields,
        (∃ expr, (around c).outcome field = .ok (.initialized expr) ∧ field.initializer = none ∧
            (around c).settle field = { field with initializer := some expr }) ∨
          ((∀ expr, (around c).outcome field ≠ .ok (.initialized expr)) ∧
            (around c).settle field = field) := by
  obtain ⟨classesEq, reportEq⟩ :=
    scanClasses_of_finished model.enums settings model.classes finished
  refine ⟨reportEq, ?_, fun c _ field _ => Surroundings.settle_cases _ field⟩
  rw [← classesEq]
  rfl

/-- A class whose first date is initialized already, and whose factory is no member yet. -/
def calendarModel : Model where
  classes := [{
    name := "Order"
    schemaName := "order"
    fields :=
      let day (name : String) (initializer : Option Expr) : Field :=
        { name, schemaName := name, type := .calendar, initializer
          origin := .particle (.element {} { name, fixedValue := "2020-02-29" }) }
      [day "ordered" (some (.text "")), day "shipped" none, day "paid" none] }]

theorem applyFixedValues_calendarModel :
    (calendarModel.applyFixedValues {}).fault = none ∧
      (calendarModel.applyFixedValues {}).report.map .ok =
        calendarModel.classes.flatMap (fun c =>
          c.fields.map (c.surroundings calendarModel.enums {}).entry) ∧
      (calendarModel.applyFixedValues {}).model =
        { calendarModel with
          classes := calendarModel.classes.map (·.settle calendarModel.enums {}) } := by
  have finished : (calendarModel.applyFixedValues {}).fault = none := by decide +kernel
  obtain ⟨reportEq, modelEq, -⟩ := applyFixedValues_closed_form calendarModel {} finished
  exact ⟨finished, reportEq, modelEq⟩

end SchemaBinding
