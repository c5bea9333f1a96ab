/-
**A second pass changes nothing.**

A second fixed-value pass meets a model that the first one has changed: fields have initializers,
classes have slots, and a class may be done in part only. What it makes of a field is nevertheless
what the first one made of it, except that a field that was initialized is so already
(`outcome_settle`).

The outcome of a field depends on its surroundings through four things only (`Alike`), one of them
whether another member is in the way of the slot. A scan keeps them all (`alike_scan`): if it adds
the slot, no member had its name before, and the slot is what has it afterwards.

`applyFixedValues_again`: the second pass leaves the model as it is, ends where the first one ended
and reports the same, up to what is initialized already.
-/

import Mathlib.Data.List.TakeWhile
import SchemaBinding.Proofs.Fallible
import SchemaBinding.Proofs.FixedValue.ClosedForm

namespace SchemaBinding

/-! ### Surroundings that are alike -/

namespace Surroundings

/-- **Two surroundings in which every field has the same outcome.** -/
structure Alike (one other : Surroundings) : Prop where
  className : one.className = other.className
  enums : one.enums = other.enums
  settings : one.settings = other.settings
  slotInTheWay : one.SlotInTheWay ↔ other.SlotInTheWay

section

variable {one other : Surroundings} (alike : one.Alike other)

include alike

theorem Alike.outcome_eq : one.outcome = other.outcome := by
  funext field
  simp only [outcome, valueOutcome, singleOutcome, diagnosed, alike.className, alike.enums,
    alike.settings, alike.slotInTheWay]

theorem Alike.settle_eq : one.settle = other.settle := by
  funext field
  rw [settle, settle, alike.outcome_eq]

theorem Alike.settles_eq : one.settles = other.settles := by
  funext field
  rw [settles, settles, alike.outcome_eq]

theorem Alike.entry_eq : one.entry = other.entry := by
  funext field
  rw [entry, entry, alike.outcome_eq, alike.className]

theorem Alike.fault?_eq : one.fault? = other.fault? := by
  funext field
  rw [fault?, fault?, alike.outcome_eq]

theorem Alike.usesSlot_iff (field : Field) : one.UsesSlot field ↔ other.UsesSlot field :=
  and_congr_right fun _ => not_congr alike.slotInTheWay

end

end Surroundings

/-! ### Settled fields -/

/-- What a second visit makes of a field with the given outcome. -/
def Outcome.again : Outcome → Outcome
  | .initialized _ => .skipped .alreadyInitialized
  | outcome => outcome

def FieldReport.again (entry : FieldReport) : FieldReport :=
  { entry with outcome := entry.outcome.again }

section

variable (around : Surroundings) (field : Field)

@[simp] theorem name_settle : (around.settle field).name = field.name := by
  rcases around.settle_cases field with ⟨expr, -, -, settled⟩ | ⟨-, settled⟩ <;> rw [settled]

/-- **A settled field keeps its outcome**, but one that was initialized is so already. -/
theorem outcome_settle :
    around.outcome (around.settle field) = (around.outcome field).map Outcome.again := by
  rcases around.settle_cases field with ⟨expr, initialized, -, settled⟩ | ⟨other, settled⟩
  · obtain ⟨-, occurs, decl, value, origin, fixed, -⟩ :=
      Surroundings.valueOutcome_of_initialized initialized
    rw [settled, initialized]
    simp [Surroundings.outcome, origin, fixed, Except.map, Outcome.again]
  · rw [settled]
    cases read : around.outcome field with
    | error fault => rfl
    | ok outcome =>
      cases outcome with
      | initialized expr => exact absurd read (other expr)
      | skipped | diagnosed => rfl

theorem settles_settle : around.settles (around.settle field) = around.settles field := by
  rw [Surroundings.settles, Surroundings.settles, outcome_settle]
  cases around.outcome field <;> rfl

theorem entry_settle :
    around.entry (around.settle field) = (around.entry field).map FieldReport.again := by
  rw [Surroundings.entry, Surroundings.entry, outcome_settle, name_settle]
  cases around.outcome field <;> rfl

/-- Nothing is left to initialize in a settled field. -/
theorem outcome_settle_ne_initialized (expr : Expr) :
    around.outcome (around.settle field) ≠ .ok (.initialized expr) := by
  intro initialized
  rw [outcome_settle] at initialized
  obtain ⟨outcome, -, again⟩ := exists_of_map_ok initialized
  cases outcome <;> exact nomatch again

theorem settle_settle : around.settle (around.settle field) = around.settle field := by
  rcases around.settle_cases (around.settle field) with ⟨expr, initialized, -⟩ | ⟨-, settled⟩
  · exact (outcome_settle_ne_initialized around field expr initialized).elim
  · exact settled

variable {around field}

theorem outcome_of_usesSlot (uses : around.UsesSlot field) :
    ∃ expr, around.outcome field = .ok (.initialized expr) := by
  obtain ⟨⟨value, awaits⟩, free⟩ := Surroundings.usesSlot_iff.mp uses
  exact ⟨_, (Surroundings.outcome_of_awaitsDate awaits).trans (by rw [if_neg free])⟩

/-- A settled field has no use for the slot any more. -/
theorem not_usesSlot_settle : ¬ around.UsesSlot (around.settle field) := by
  intro uses
  obtain ⟨expr, initialized⟩ := outcome_of_usesSlot uses
  exact outcome_settle_ne_initialized around field expr initialized

end

/-! ### A second scan -/

/-- What a change of the first part of a list does to its division, if the change keeps the property
that divides it. -/
theorem division_of_changed {α : Type} {property : α → Bool} {change : α → α}
    (keeps : ∀ x, property (change x) = property x) (list : List α) :
    let changed := (list.takeWhile property).map change ++ list.dropWhile property
    changed.takeWhile property = (list.takeWhile property).map change ∧
      changed.dropWhile property = list.dropWhile property := by
  induction list with
  | nil => exact ⟨rfl, rfl⟩
  | cons x rest ih =>
    by_cases holds : property x = true
    · have kept : property (change x) = true := (keeps x).trans holds
      rw [List.takeWhile_cons_of_pos holds, List.dropWhile_cons_of_pos holds, List.map_cons,
        List.cons_append]
      dsimp only
      rw [List.takeWhile_cons_of_pos kept, List.dropWhile_cons_of_pos kept]
      exact ⟨congrArg (change x :: ·) ih.1, ih.2⟩
    · rw [List.takeWhile_cons_of_neg holds, List.dropWhile_cons_of_neg holds, List.map_nil,
        List.nil_append]
      dsimp only
      rw [List.takeWhile_cons_of_neg holds, List.dropWhile_cons_of_neg holds]
      exact ⟨rfl, rfl⟩

section

variable (c : DataClass) (enums : List Enumeration) (settings : Settings)

theorem fields_scan :
    (c.scan enums settings).result.fields =
      (c.fields.takeWhile (c.surroundings enums settings).settles).map
          (c.surroundings enums settings).settle ++
        c.fields.dropWhile (c.surroundings enums settings).settles := by
  rw [(scan_eq c enums settings).1]

theorem statics_scan :
    (c.scan enums settings).result.statics =
      (c.surroundings enums settings).staticsAfter
        (c.fields.takeWhile (c.surroundings enums settings).settles) := by
  rw [(scan_eq c enums settings).1]

/-- A scan keeps the names of the fields. -/
theorem fieldNames_scan :
    (c.scan enums settings).result.fields.map (·.name) = c.fields.map (·.name) := by
  have parts := List.takeWhile_append_dropWhile
    (p := (c.surroundings enums settings).settles) (l := c.fields)
  have kept : Field.name ∘ (c.surroundings enums settings).settle = Field.name :=
    funext fun field => name_settle _ field
  rw [fields_scan, List.map_append, List.map_map, kept, ← List.map_append, parts]

/-- **A scan leaves surroundings behind in which every field has the outcome that it had.** -/
theorem alike_scan :
    ((c.scan enums settings).result.surroundings enums settings).Alike
      (c.surroundings enums settings) where
  className := rfl
  enums := rfl
  settings := rfl
  slotInTheWay := by
    unfold Surroundings.SlotInTheWay
    simp only [memberNames_surroundings, statics_surroundings, settings_surroundings,
      DataClass.memberNames, fieldNames_scan, statics_scan]
    unfold Surroundings.staticsAfter
    split
    · -- The slot is new, so its name was free before, and now it is the slot that has it.
      rename_i added
      have free : settings.slotName ∉ c.memberNames := added.1
      have absent : c.statics.find? (·.name == settings.slotName) = none := by
        refine List.find?_eq_none.mpr fun member static_mem same => free ?_
        refine List.mem_append_right _ (List.mem_map.mpr ⟨member, static_mem, ?_⟩)
        simpa using same
      have found : (c.statics ++ [settings.slot]).find? (·.name == settings.slotName) =
          some settings.slot := by
        simp [List.find?_append, absent, Settings.slot]
      exact iff_of_false (fun blocked => blocked.2 found) (fun blocked => free blocked.1)
    · rfl

/-- A second scan visits the fields that the first one has settled, and stops where it did. -/
theorem division_scan :
    let around := c.surroundings enums settings
    let first := (c.scan enums settings).result
    let settles := (first.surroundings enums settings).settles
    first.fields.takeWhile settles = (c.fields.takeWhile around.settles).map around.settle ∧
      first.fields.dropWhile settles = c.fields.dropWhile around.settles := by
  dsimp only
  rw [(alike_scan c enums settings).settles_eq, fields_scan]
  exact division_of_changed (settles_settle (c.surroundings enums settings)) c.fields

/-- A scan that keeps fields and static members keeps the class. -/
theorem scan_eq_self (fields : (c.scan enums settings).result.fields = c.fields)
    (statics : (c.scan enums settings).result.statics = c.statics) :
    (c.scan enums settings).result = c := by
  calc (c.scan enums settings).result
      = { c with
          fields := (c.scan enums settings).result.fields
          statics := (c.scan enums settings).result.statics } := rfl
    _ = c := by rw [fields, statics]

/-- **A second scan of a class changes nothing.** -/
theorem scan_again :
    let first := c.scan enums settings
    let second := first.result.scan enums settings
    second.result = first.result ∧ second.report = first.report.map FieldReport.again ∧
      second.fault = first.fault := by
  intro first second
  have alike : (first.result.surroundings enums settings).Alike (c.surroundings enums settings) :=
    alike_scan c enums settings
  obtain ⟨taken, dropped⟩ := division_scan c enums settings
  obtain ⟨-, reportEq, faultEq⟩ := scan_eq c enums settings
  obtain ⟨-, reportEq', faultEq'⟩ := scan_eq first.result enums settings
  refine ⟨scan_eq_self first.result enums settings ?_ ?_, ?_, ?_⟩
  · have twice : (c.surroundings enums settings).settle ∘ (c.surroundings enums settings).settle =
        (c.surroundings enums settings).settle := funext fun field => settle_settle _ field
    rw [fields_scan first.result, taken, dropped, alike.settle_eq, List.map_map, twice,
      fields_scan c]
  · -- No settled field uses the slot, so there is nothing to add.
    have unused : ¬ ∃ field ∈ (c.fields.takeWhile (c.surroundings enums settings).settles).map
        (c.surroundings enums settings).settle,
        (first.result.surroundings enums settings).UsesSlot field := by
      rintro ⟨settled, member, uses⟩
      obtain ⟨field, -, rfl⟩ := List.mem_map.mp member
      exact not_usesSlot_settle ((alike.usesSlot_iff _).mp uses)
    rw [statics_scan first.result, taken, Surroundings.staticsAfter, if_neg fun both => unused both.2]
    rfl
  · have injective (one other : FieldReport)
        (same : (.ok one : Except MalformedValue FieldReport) = .ok other) : one = other :=
      Except.ok.inj same
    refine (List.map_inj_right injective).mp ?_
    have settled : (c.surroundings enums settings).entry ∘ (c.surroundings enums settings).settle =
        (Except.map FieldReport.again) ∘ (c.surroundings enums settings).entry :=
      funext fun field => entry_settle _ field
    calc second.report.map .ok
        = ((c.fields.takeWhile (c.surroundings enums settings).settles).map
            (c.surroundings enums settings).settle).map (c.surroundings enums settings).entry := by
          rw [reportEq', taken, alike.entry_eq]
      _ = (first.report.map .ok).map (Except.map FieldReport.again) := by
          rw [reportEq, List.map_map, settled, List.map_map]
      _ = (first.report.map FieldReport.again).map .ok := by
          rw [List.map_map, List.map_map]
          rfl
  · rw [faultEq', dropped, alike.fault?_eq, faultEq]

end

/-! ### A second pass -/

theorem scanClasses_again (enums : List Enumeration) (settings : Settings)
    (classes : List DataClass) :
    let first := scanClasses enums settings classes
    let second := scanClasses enums settings first.classes
    second.classes = first.classes ∧ second.report = first.report.map FieldReport.again ∧
      second.fault = first.fault := by
  induction classes with
  | nil => exact ⟨rfl, rfl, rfl⟩
  | cons c rest ih =>
    obtain ⟨resultEq, reportEq, faultEq⟩ := scan_again c enums settings
    obtain ⟨classesEq, laterEq, endEq⟩ := ih
    dsimp only at resultEq reportEq faultEq classesEq laterEq endEq ⊢
    rw [scanClasses]
    cases fault : (c.scan enums settings).fault with
    | some malformed =>
      rw [fault] at faultEq
      simp only [scanClasses, faultEq]
      exact ⟨congrArg (· :: rest) resultEq, reportEq, trivial⟩
    | none =>
      rw [fault] at faultEq
      simp only [scanClasses, faultEq]
      refine ⟨?_, ?_, endEq⟩
      · rw [resultEq, classesEq]
      · rw [reportEq, laterEq, List.map_append]

/-- **A second pass changes nothing**, whether or not a malformed value ended the first one. It
leaves the model as the first one left it, it comes to its end or stops at the same malformed value,
and it reports of every field what the first one reported, but that a field which was initialized
is passed over because it is so already. -/
theorem applyFixedValues_again (model : Model) (settings : Settings) :
    let first := model.applyFixedValues settings
    let second := first.model.applyFixedValues settings
    second.model = first.model ∧ second.fault = first.fault ∧
      second.report = first.report.map FieldReport.again := by
  intro first second
  obtain ⟨classesEq, reportEq, faultEq⟩ := scanClasses_again model.enums settings model.classes
  refine ⟨?_, faultEq, reportEq⟩
  show { first.model with classes := (scanClasses model.enums settings first.model.classes).classes }
    = first.model
  rw [show (scanClasses model.enums settings first.model.classes).classes = first.model.classes
    from classesEq]

end SchemaBinding
