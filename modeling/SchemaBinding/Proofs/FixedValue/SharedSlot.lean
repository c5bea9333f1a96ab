/-
**The dates of a class share one slot, all or none.**

A scan remembers the slot of its class once it has it, and asks for it no more. What it remembers is
true (`DataClass.Remembers`): every visit keeps that, because a class that has the slot keeps it. So
the visit of a field is the one that would look for the slot again (`visit_of_remembers`), and a scan
is the one without memory (`scanFields_of_remembers`).

Whether the slot can be had does not change on the way either, so what becomes of the fields that wait
for a date (`Field.AwaitsDate`) is the same for all of them.

* `dates_share_slot` — memory makes no difference; the dates of a class are all built through the
  slot, or they are all refused; and the slot is added only for a date that reads it.
-/

import SchemaBinding.Proofs.Fallible
import SchemaBinding.Proofs.FixedValue.ClosedForm

namespace SchemaBinding

/-! ### Scans without memory -/

/-- Visits the fields that are left of a class, and looks for the slot at every field that needs
it. -/
def scanFieldsAnew (enums : List Enumeration) (settings : Settings) (c : DataClass) :
    List Field → FieldScan
  | [] => { fields := [], statics := c.statics }
  | field :: rest =>
    match c.visit enums settings none field with
    | .error fault => { fields := field :: rest, statics := c.statics, fault := some fault }
    | .ok visit =>
      let later := scanFieldsAnew enums settings visit.owner rest
      { later with
        fields := field.after visit.outcome :: later.fields
        report := ⟨c.name, field.name, visit.outcome⟩ :: later.report
        log := visit.log ++ later.log }

/-- A scan of a class that does not remember its slot. -/
def DataClass.scanAnew (c : DataClass) (enums : List Enumeration) (settings : Settings) :
    ClassScan :=
  let scan := scanFieldsAnew enums settings c c.fields
  { result := { c with fields := scan.fields, statics := scan.statics }
    report := scan.report
    log := scan.log
    fault := scan.fault }

/-- **What is remembered is true**: the name is that of the slot, and the class has the slot. -/
def DataClass.Remembers (c : DataClass) (settings : Settings) (known : Option String) : Prop :=
  ∀ slot, known = some slot → slot = settings.slotName ∧ c.hasSlot settings = true

section

variable {c : DataClass} {enums : List Enumeration} {settings : Settings} {known : Option String}

theorem hasSlot_of_ensureSlot {extended : DataClass}
    (ensured : c.ensureSlot settings = .ok extended) : extended.hasSlot settings = true := by
  unfold DataClass.ensureSlot at ensured
  split at ensured
  · rename_i has
    rw [← Except.ok.inj ensured]
    exact has
  · unfold DataClass.addStatic at ensured
    split at ensured
    · exact nomatch ensured
    · -- No member had the name of the slot, so the slot is the first one that has it now.
      rename_i fresh
      have absent : c.statics.find? (·.name == settings.slotName) = none := by
        refine List.find?_eq_none.mpr fun member static_mem same => fresh ?_
        refine DataClass.hasMember_iff.mpr (List.mem_append_right _ (List.mem_map.mpr ?_))
        exact ⟨member, static_mem, by simpa [Settings.slot] using same⟩
      rw [← Except.ok.inj ensured, hasSlot_iff, DataClass.static?, List.find?_append, absent]
      simp [Settings.slot]

/-- A slot that is remembered would be found, as it is and under the same name. -/
theorem slotFor_of_remembers (remembers : c.Remembers settings known) :
    c.slotFor settings known = c.slotFor settings none := by
  cases known with
  | none => rfl
  | some slot =>
    obtain ⟨rfl, has⟩ := remembers slot rfl
    simp [DataClass.slotFor, DataClass.ensureSlot, has, Except.map]

variable (c enums settings) in
/-- A field that is no single date or time leaves its class alone, whatever is remembered. -/
theorem exists_visitValue_eq {field : Field} (other : LiteralKind.ofField field ≠ .temporal)
    (value : String) :
    ∃ outcome : Except LiteralFault Outcome, ∀ slot,
      c.visitValue enums settings slot field value = outcome.map (c.unchanged slot) := by
  refine ⟨(c.visitValue enums settings none field value).map (·.outcome), fun slot => ?_⟩
  unfold DataClass.visitValue
  cases kind : LiteralKind.ofField field with
  | temporal => exact absurd kind other
  | text | unsupported => rfl
  | boolean => cases readBoolean value <;> rfl
  | narrowInteger width =>
    cases read : readNarrow width value <;> simp [read, Except.map, DataClass.unchanged]
  | longInteger => cases readLong value <;> rfl
  | float => cases readSingle value <;> rfl
  | double => cases readDouble value <;> rfl
  | enumeration name =>
    cases found : findEnumConstant enums name value <;>
      simp [found, Except.map, DataClass.unchanged]

/-- The value of a field is taken as if the slot were looked for again. -/
theorem visitValue_of_remembers (remembers : c.Remembers settings known) (field : Field)
    (value : String) :
    c.visitValue enums settings known field value =
      (c.visitValue enums settings none field value).map fun visit =>
        { visit with slot := visit.slot.or known } := by
  by_cases temporal : LiteralKind.ofField field = .temporal
  · simp only [DataClass.visitValue, temporal, slotFor_of_remembers remembers]
    cases c.slotFor settings none <;> rfl
  · obtain ⟨outcome, same⟩ := exists_visitValue_eq c enums settings temporal value
    rw [same, same]
    cases outcome <;> rfl

/-- **The visit of a field is the one that looks for the slot again.** -/
theorem visit_of_remembers (remembers : c.Remembers settings known) (field : Field) :
    c.visit enums settings known field =
      (c.visit enums settings none field).map fun visit =>
        { visit with slot := visit.slot.or known } := by
  unfold DataClass.visit
  cases field.fixedValue with
  | error reason => rfl
  | ok value =>
    by_cases initialized : field.initializer.isSome = true
    · simp only [if_pos initialized]
      rfl
    · simp only [if_neg initialized, visitValue_of_remembers remembers]
      cases c.visitValue enums settings none field value <;> rfl

/-- A visit that looks for the slot leaves its class alone, or the class has the slot then. -/
theorem visitValue_cases {field : Field} {value : String} {visit : Visit}
    (visited : c.visitValue enums settings none field value = .ok visit) :
    (visit.owner = c ∧ visit.slot = none) ∨
      (visit.slot = some settings.slotName ∧ visit.owner.hasSlot settings = true) := by
  by_cases temporal : LiteralKind.ofField field = .temporal
  · simp only [DataClass.visitValue, temporal, DataClass.slotFor] at visited
    cases ensured : c.ensureSlot settings with
    | error fault =>
      rw [ensured] at visited
      obtain rfl := Except.ok.inj visited
      exact .inl ⟨rfl, rfl⟩
    | ok extended =>
      rw [ensured] at visited
      obtain rfl := Except.ok.inj visited
      exact .inr ⟨rfl, hasSlot_of_ensureSlot ensured⟩
  · obtain ⟨outcome, same⟩ := exists_visitValue_eq c enums settings temporal value
    obtain ⟨_, -, rfl⟩ := exists_of_map_ok ((same none).symm.trans visited)
    exact .inl ⟨rfl, rfl⟩

theorem visit_cases {field : Field} {visit : Visit}
    (visited : c.visit enums settings none field = .ok visit) :
    (visit.owner = c ∧ visit.slot = none) ∨
      (visit.slot = some settings.slotName ∧ visit.owner.hasSlot settings = true) := by
  unfold DataClass.visit at visited
  split at visited
  · obtain rfl := Except.ok.inj visited
    exact .inl ⟨rfl, rfl⟩
  · split at visited
    · obtain rfl := Except.ok.inj visited
      exact .inl ⟨rfl, rfl⟩
    · exact visitValue_cases (mapError_eq_ok_iff.mp visited)

/-- A visit leaves behind what is true of the class that it leaves behind. -/
theorem remembers_of_visit {field : Field} {visit : Visit}
    (remembers : c.Remembers settings known)
    (visited : c.visit enums settings none field = .ok visit) :
    visit.owner.Remembers settings (visit.slot.or known) := by
  rcases visit_cases visited with ⟨owner, slot⟩ | ⟨slot, has⟩
  · rw [owner, slot]
    exact remembers
  · rw [slot]
    rintro _ ⟨⟩
    exact ⟨rfl, has⟩

/-- **Memory makes no difference to a scan.** -/
theorem scanFields_of_remembers (fields : List Field) (remembers : c.Remembers settings known) :
    scanFields enums settings c known fields = scanFieldsAnew enums settings c fields := by
  induction fields generalizing c known with
  | nil => rfl
  | cons field rest ih =>
    rw [scanFields, scanFieldsAnew, visit_of_remembers remembers]
    cases visited : c.visit enums settings none field with
    | error malformed => rfl
    | ok visit =>
      simp only [Except.map]
      rw [ih (remembers_of_visit remembers visited)]

theorem scan_eq_scanAnew (c : DataClass) (enums : List Enumeration) (settings : Settings) :
    c.scan enums settings = c.scanAnew enums settings := by
  have nothing : c.Remembers settings none := nofun
  unfold DataClass.scan DataClass.scanAnew
  rw [scanFields_of_remembers c.fields nothing]

end

/-! ### All dates of a class -/

/-- The class is scanned to the end: each field has its entry in the report, and its outcome. -/
theorem scan_at_of_finished {c : DataClass} {enums : List Enumeration} {settings : Settings}
    (finished : (c.scan enums settings).fault = none) {i : Nat} {field : Field} {outcome : Outcome}
    (at_i : c.fields[i]? = some field)
    (read : (c.surroundings enums settings).outcome field = .ok outcome) :
    (c.scan enums settings).report[i]? = some ⟨c.name, field.name, outcome⟩ ∧
      (c.scan enums settings).result.fields[i]? = some (field.after outcome) := by
  obtain ⟨resultEq, reportEq⟩ := scan_of_finished c enums settings finished
  constructor
  · have entry := congrArg (·[i]?) reportEq
    simp only [List.getElem?_map, at_i, Option.map_some, Surroundings.entry, read] at entry
    obtain ⟨report, found, same⟩ := Option.map_eq_some_iff.mp entry
    rw [found, Except.ok.inj same]
    rfl
  · rw [resultEq]
    simp only [DataClass.settle, List.getElem?_map, at_i, Option.map_some, Surroundings.settle, read]

/-- **All dates of the class are built through the slot.** The class has the slot then, and at most
the slot is new. -/
structure ClassScan.BuildsDates (scan : ClassScan) (c : DataClass) (settings : Settings) : Prop where
  initialized : ∀ (i : Nat) (field : Field) (value : String), c.fields[i]? = some field →
    field.AwaitsDate value →
      let expr := Expr.invoke (.staticMember settings.slotName) calendarMethod [.text value]
      scan.report[i]? = some ⟨c.name, field.name, .initialized expr⟩ ∧
        scan.result.fields[i]? = some { field with initializer := some expr }
  slot_mem : settings.slot ∈ scan.result.statics
  statics : scan.result.statics = c.statics ∨ scan.result.statics = c.statics ++ [settings.slot]

/-- **All dates of the class are refused**, with diagnostics that are errors, and the static members
are as they were. -/
structure ClassScan.RefusesDates (scan : ClassScan) (c : DataClass) (settings : Settings) :
    Prop where
  diagnosed : ∀ (i : Nat) (field : Field) (value : String), c.fields[i]? = some field →
    field.AwaitsDate value →
      let diagnostic : Diagnostic := ⟨c.name, field.name, slotRefusal c.name settings⟩
      diagnostic.severity = .error ∧
        scan.report[i]? = some ⟨c.name, field.name, .diagnosed diagnostic⟩ ∧
        scan.result.fields[i]? = some field
  statics : scan.result.statics = c.statics

section

variable {c : DataClass} {enums : List Enumeration} {settings : Settings}

theorem statics_of_finished (finished : (c.scan enums settings).fault = none) :
    (c.scan enums settings).result.statics =
      (c.surroundings enums settings).staticsAfter c.fields := by
  rw [(scan_of_finished c enums settings finished).1]
  rfl

/-- Where the slot can be had, a class with a date gets it, if it does not have it yet. -/
theorem buildsDates_of_free (finished : (c.scan enums settings).fault = none)
    (free : ¬ (c.surroundings enums settings).SlotInTheWay)
    (waits : ∃ field ∈ c.fields, ∃ value, field.AwaitsDate value) :
    (c.scan enums settings).BuildsDates c settings where
  initialized i field value at_i awaits := by
    have read : (c.surroundings enums settings).outcome field = _ :=
      Surroundings.outcome_of_awaitsDate awaits
    rw [if_neg free] at read
    exact scan_at_of_finished finished at_i read
  slot_mem := by
    rw [statics_of_finished finished, Surroundings.staticsAfter]
    split
    · exact List.mem_append_right _ (List.mem_singleton_self _)
    · -- The slot is not new although a field uses it, so it was there.
      rename_i old
      obtain ⟨field, member, value, awaits⟩ := waits
      have uses : (c.surroundings enums settings).UsesSlot field :=
        Surroundings.usesSlot_iff.mpr ⟨⟨value, awaits⟩, free⟩
      have taken : settings.slotName ∈ c.memberNames :=
        Classical.not_not.mp fun absent => old ⟨absent, field, member, uses⟩
      have has := (hasSlot_iff_of_free c enums settings free).mpr taken
      exact List.mem_of_find?_eq_some ((hasSlot_iff c settings).mp has)
  statics := by
    rw [statics_of_finished finished, Surroundings.staticsAfter]
    split
    · exact .inr rfl
    · exact .inl rfl

/-- A class that is scanned to the end has its static members as they were, unless one of its fields
uses the slot. -/
theorem statics_of_not_used (finished : (c.scan enums settings).fault = none)
    (unused : ¬ ∃ field ∈ c.fields, (c.surroundings enums settings).UsesSlot field) :
    (c.scan enums settings).result.statics = c.statics := by
  rw [statics_of_finished finished, Surroundings.staticsAfter, if_neg fun both => unused both.2]
  rfl

theorem refusesDates_of_blocked (finished : (c.scan enums settings).fault = none)
    (blocked : (c.surroundings enums settings).SlotInTheWay) :
    (c.scan enums settings).RefusesDates c settings where
  diagnosed i field value at_i awaits := by
    have read : (c.surroundings enums settings).outcome field = _ :=
      Surroundings.outcome_of_awaitsDate awaits
    rw [if_pos blocked] at read
    exact ⟨rfl, scan_at_of_finished finished at_i read⟩
  statics := statics_of_not_used finished fun ⟨_, _, uses⟩ => uses.2 blocked

theorem refusesDates_of_none (finished : (c.scan enums settings).fault = none)
    (nowhere : ¬ ∃ field ∈ c.fields, ∃ value, field.AwaitsDate value) :
    (c.scan enums settings).RefusesDates c settings where
  diagnosed _ field value at_i awaits :=
    absurd ⟨field, List.mem_of_getElem? at_i, value, awaits⟩ nowhere
  statics := statics_of_not_used finished fun ⟨field, member, uses⟩ =>
    nowhere ⟨field, member, (Surroundings.usesSlot_iff.mp uses).1⟩

end

/-- **The dates of a class share one slot, all or none.** A scan leaves behind, reports and logs what
a scan would that looks for the slot at every date. If it comes to its end, either all dates are
built through the slot, which the class has then, or all of them are refused and the static members
are as they were. The slot is added only for a date that is waiting, and whose initializer reads it
afterwards. -/
theorem dates_share_slot (c : DataClass) (enums : List Enumeration) (settings : Settings) :
    let scan := c.scan enums settings
    scan = c.scanAnew enums settings ∧
      (scan.fault = none →
        (scan.BuildsDates c settings ∨ scan.RefusesDates c settings) ∧
          (scan.result.statics ≠ c.statics →
            ∃ (i : Nat) (field : Field) (value : String) (expr : Expr),
              c.fields[i]? = some field ∧ field.AwaitsDate value ∧
                scan.result.fields[i]? = some { field with initializer := some expr } ∧
                expr.staticTarget? = some settings.slotName)) := by
  intro scan
  refine ⟨scan_eq_scanAnew c enums settings, fun finished => ⟨?_, fun added => ?_⟩⟩
  · by_cases blocked : (c.surroundings enums settings).SlotInTheWay
    · exact .inr (refusesDates_of_blocked finished blocked)
    · by_cases waits : ∃ field ∈ c.fields, ∃ value, field.AwaitsDate value
      · exact .inl (buildsDates_of_free finished blocked waits)
      · exact .inr (refusesDates_of_none finished waits)
  · have used : ∃ field ∈ c.fields, (c.surroundings enums settings).UsesSlot field :=
      Classical.not_not.mp fun unused => added (statics_of_not_used finished unused)
    obtain ⟨field, member, uses⟩ := used
    obtain ⟨⟨value, awaits⟩, free⟩ := Surroundings.usesSlot_iff.mp uses
    obtain ⟨i, at_i⟩ := List.mem_iff_getElem?.mp member
    have builds := buildsDates_of_free finished free ⟨field, member, value, awaits⟩
    exact ⟨i, field, value, _, at_i, awaits, (builds.initialized i field value at_i awaits).2, rfl⟩

/-- A parcel with two dates around a number, and a static member that is not their slot. -/
def parcel : DataClass where
  name := "Parcel"
  schemaName := "parcel"
  fields :=
    let fixed (name : String) (type : FieldType) (value : String) : Field :=
      { name, schemaName := name, type
        origin := .particle (.element {} { name, fixedValue := value }) }
    [fixed "sent" .calendar "2020-02-28", fixed "weight" .int "3",
      fixed "received" .calendar "2020-03-01"]
  statics := [{ name := "LIMIT", typeName := "i32", init := .value (.int 30) }]

/-- The slot of a parcel is new, and its dates are built through it. -/
theorem dates_share_slot_parcel :
    let scan := parcel.scan [] {}
    scan.fault = none ∧ scan.result.statics ≠ parcel.statics ∧
      (scan.BuildsDates parcel {} ∨ scan.RefusesDates parcel {}) ∧
      ∃ (i : Nat) (field : Field) (value : String) (expr : Expr),
        parcel.fields[i]? = some field ∧ field.AwaitsDate value ∧
          scan.result.fields[i]? = some { field with initializer := some expr } ∧
          expr.staticTarget? = some ({} : Settings).slotName := by
  intro scan
  have finished : scan.fault = none := by decide +kernel
  have added : scan.result.statics ≠ parcel.statics := by
    intro same
    have two : scan.result.statics.length = 2 := by decide +kernel
    rw [same] at two
    exact absurd two (by decide)
  obtain ⟨-, shared⟩ := dates_share_slot parcel [] {}
  exact ⟨finished, added, (shared finished).1, (shared finished).2 added⟩

end SchemaBinding
