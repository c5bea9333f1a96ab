/-
**Which diagnostics reach the one who runs the pass.**

A field that a pass visits may be left with a diagnostic. All these diagnostics are in the report of
the pass, in the order of the fields (`diagnostics_report`). The plugin hands them on after the
pass, and only if the pass has come to its end: a malformed value further on takes all of them with
it (`received_runFixedValues`).

The diagnostics that are due are told without the pass, from the outcomes of the fields in front of
the first one that has none (`Model.dueDiagnostics`).
-/

import SchemaBinding.Plugin
import SchemaBinding.Proofs.FixedValue.Abort

namespace SchemaBinding

/-- The diagnostics that a run hands on, in order. -/
def PluginRun.received (run : PluginRun) : List Diagnostic := run.notices.filterMap (·.diagnostic?)

/-- The fields of classes, each with its class, in order. -/
def fieldsInOrder (classes : List DataClass) : List (DataClass × Field) :=
  classes.flatMap fun c => c.fields.map fun field => (c, field)

/-- The diagnostic that is the outcome of a field. -/
def Surroundings.diagnostic? (around : Surroundings) (field : Field) : Option Diagnostic :=
  match around.outcome field with
  | .ok (.diagnosed diagnostic) => some diagnostic
  | _ => none

section

variable (enums : List Enumeration) (settings : Settings)

/-- The diagnostics of fields up to the first one that has no outcome. -/
def diagnosticsBefore (fields : List (DataClass × Field)) : List Diagnostic :=
  (fields.takeWhile fun (c, field) => (c.surroundings enums settings).settles field).filterMap
    fun (c, field) => (c.surroundings enums settings).diagnostic? field

end

/-- **The diagnostics that a pass owes**: those of all fields that it visits, in order. -/
def Model.dueDiagnostics (model : Model) (settings : Settings) : List Diagnostic :=
  diagnosticsBefore model.enums settings (fieldsInOrder model.classes)

/-! ### The diagnostics in the report -/

theorem takeWhile_append_of_stopped {α : Type} {property : α → Bool} {first : List α}
    (stopped : first.dropWhile property ≠ []) (second : List α) :
    (first ++ second).takeWhile property = first.takeWhile property := by
  rw [List.takeWhile_append, if_neg]
  intro whole
  have parts := congrArg List.length
    (List.takeWhile_append_dropWhile (p := property) (l := first))
  rw [List.length_append, whole] at parts
  exact stopped (List.eq_nil_of_length_eq_zero (by omega))

section

variable (enums : List Enumeration) (settings : Settings)

theorem diagnostics_scan (c : DataClass) :
    (c.scan enums settings).report.diagnostics =
      diagnosticsBefore enums settings (c.fields.map fun field => (c, field)) := by
  obtain ⟨-, reportEq, -⟩ := scan_eq c enums settings
  let pick (entry : Except MalformedValue FieldReport) : Option Diagnostic :=
    entry.toOption.bind (·.diagnostic?)
  have picked : pick ∘ (c.surroundings enums settings).entry =
      (c.surroundings enums settings).diagnostic? := by
    funext field
    simp only [pick, Function.comp_apply, Surroundings.entry, Surroundings.diagnostic?]
    cases (c.surroundings enums settings).outcome field with
    | error fault => rfl
    | ok outcome => cases outcome <;> rfl
  calc (c.scan enums settings).report.diagnostics
      = ((c.scan enums settings).report.map .ok).filterMap pick := by
        rw [List.filterMap_map]
        rfl
    _ = (c.fields.takeWhile (c.surroundings enums settings).settles).filterMap
          (c.surroundings enums settings).diagnostic? := by
        rw [reportEq, List.filterMap_map, picked]
    _ = diagnosticsBefore enums settings (c.fields.map fun field => (c, field)) := by
        rw [diagnosticsBefore, List.takeWhile_map, List.filterMap_map]
        rfl

/-- A scan that ends early hides the fields of later classes. -/
theorem diagnosticsBefore_of_fault {c : DataClass} {malformed : MalformedValue}
    (ended : (c.scan enums settings).fault = some malformed) (later : List (DataClass × Field)) :
    diagnosticsBefore enums settings ((c.fields.map fun field => (c, field)) ++ later) =
      diagnosticsBefore enums settings (c.fields.map fun field => (c, field)) := by
  rw [diagnosticsBefore, takeWhile_append_of_stopped]
  · rfl
  · rw [(scan_eq c enums settings).2.2] at ended
    intro nothing
    rw [List.dropWhile_map, List.map_eq_nil_iff] at nothing
    have none : c.fields.dropWhile (c.surroundings enums settings).settles = [] := nothing
    rw [none] at ended
    exact nomatch ended

theorem diagnosticsBefore_of_finished {c : DataClass}
    (finished : (c.scan enums settings).fault = none) (later : List (DataClass × Field)) :
    diagnosticsBefore enums settings ((c.fields.map fun field => (c, field)) ++ later) =
      diagnosticsBefore enums settings (c.fields.map fun field => (c, field)) ++
        diagnosticsBefore enums settings later := by
  have all : ∀ place ∈ c.fields.map fun field => (c, field),
      (place.1.surroundings enums settings).settles place.2 = true := by
    intro place member
    obtain ⟨field, field_mem, rfl⟩ := List.mem_map.mp member
    exact List.dropWhile_eq_nil_iff.mp (dropWhile_settles_of_finished c enums settings finished)
      field field_mem
  rw [diagnosticsBefore, List.takeWhile_append_of_pos all, List.filterMap_append, diagnosticsBefore,
    List.takeWhile_eq_self_iff.mpr all]
  rfl

/-- **The report of a pass holds the diagnostics that are due**, once each and in order, whether or
not the pass comes to its end. -/
theorem diagnostics_report (classes : List DataClass) :
    (scanClasses enums settings classes).report.diagnostics =
      diagnosticsBefore enums settings (fieldsInOrder classes) := by
  induction classes with
  | nil => rfl
  | cons c rest ih =>
    rw [scanClasses, show fieldsInOrder (c :: rest) =
      (c.fields.map fun field => (c, field)) ++ fieldsInOrder rest from List.flatMap_cons]
    cases fault : (c.scan enums settings).fault with
    | some malformed =>
      rw [diagnosticsBefore_of_fault enums settings fault, ← diagnostics_scan]
    | none =>
      rw [diagnosticsBefore_of_finished enums settings fault, ← diagnostics_scan, ← ih]
      exact List.filterMap_append

end

/-! ### The diagnostics that are handed on -/

theorem received_of_events (events : List LogEvent) :
    (events.map Notice.event).filterMap (·.diagnostic?) = [] := by
  rw [List.filterMap_map]
  exact List.filterMap_eq_nil_iff.mpr fun _ _ => rfl

theorem diagnostic?_of_notice? (settings : Settings) (entry : FieldReport) :
    (entry.notice? settings).bind (·.diagnostic?) = entry.diagnostic? := by
  unfold FieldReport.notice? FieldReport.diagnostic?
  cases entry.outcome with
  | initialized expr => cases settings.verbose <;> rfl
  | skipped | diagnosed => rfl

section

variable {model : Model} {settings : Settings}

theorem fault_runFixedValues :
    (runFixedValues settings model).fault =
      (model.applyFixedValues settings).fault.map .malformedValue := by
  unfold runFixedValues
  cases fault : (model.applyFixedValues settings).fault <;> simp only [fault, Option.map]

theorem received_of_fault {malformed : MalformedValue}
    (ended : (model.applyFixedValues settings).fault = some malformed) :
    (runFixedValues settings model).received = [] := by
  unfold PluginRun.received runFixedValues
  simp only [ended]
  exact received_of_events _

theorem received_of_finished (finished : (model.applyFixedValues settings).fault = none) :
    (runFixedValues settings model).received =
      (model.applyFixedValues settings).report.diagnostics := by
  unfold PluginRun.received runFixedValues
  simp only [finished]
  rw [List.filterMap_append, List.filterMap_append, received_of_events, List.filterMap_filterMap]
  simp only [diagnostic?_of_notice?]
  exact List.append_nil _

end

/-- **Diagnostics are handed on all or none.** A pass that comes to its end hands on the diagnostics
of all fields that it visited, once each and in order. A pass that a malformed value ends hands on
none, so those that are due are lost exactly if there are any. -/
theorem received_runFixedValues (model : Model) (settings : Settings) :
    let run := runFixedValues settings model
    run.received = (if run.fault.isSome then [] else model.dueDiagnostics settings) ∧
      (run.received = model.dueDiagnostics settings ↔
        run.fault = none ∨ model.dueDiagnostics settings = []) := by
  intro run
  have faultEq : run.fault = (model.applyFixedValues settings).fault.map .malformedValue :=
    fault_runFixedValues
  have due : (model.applyFixedValues settings).report.diagnostics = model.dueDiagnostics settings :=
    diagnostics_report model.enums settings model.classes
  cases fault : (model.applyFixedValues settings).fault with
  | some malformed =>
    have nothing : run.received = [] := received_of_fault fault
    rw [faultEq, fault, nothing]
    exact ⟨rfl, fun none => .inr none.symm, fun either => (either.resolve_left nofun).symm⟩
  | none =>
    have everything : run.received = model.dueDiagnostics settings :=
      (received_of_finished fault).trans due
    rw [faultEq, fault, everything]
    exact ⟨rfl, iff_of_true rfl (.inl rfl)⟩

/-- An order whose price has a type without literals, in front of a malformed number. -/
def pricedOrder : Model where
  classes := [{
    name := "Order"
    schemaName := "order"
    fields := [
      .ofFixedElement "price" (.foreign "decimal" "BigDecimal") "1.50",
      .ofFixedElement "count" .int "7.5"] }]

/-- **A diagnostic is lost**: that of the price, since the number behind it is malformed. -/
theorem diagnostic_lost :
    pricedOrder.dueDiagnostics {} = [⟨"Order", "price", .unsupportedType "BigDecimal" "1.50"⟩] ∧
      (runFixedValues {} pricedOrder).received = [] := by
  decide +kernel

end SchemaBinding
