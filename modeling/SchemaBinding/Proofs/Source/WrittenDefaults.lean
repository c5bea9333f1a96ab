/-
**What fixed values change in generated code.**

A fixed-value pass only makes a model grow. All lines of a class but those of its written default
value are the same before and after that (`derivedLines_of_growsTo`), and so are the lines in front
of the classes. What has grown shows in the written default value only, which assigns all fields of
its structure, each with its initializer if it has one by then.

So if code is generated with the pass, then code is generated without it, and the one is the other
with some default values written out (`fixed_values_write_defaults`).
-/

import SchemaBinding.Proofs.FixedValue.Diagnostics
import SchemaBinding.Proofs.Model.FieldNames
import SchemaBinding.Proofs.Model.Growth
import SchemaBinding.Proofs.Source.ClassLines

namespace SchemaBinding

/-! ### The lines in front of classes -/

namespace Model

/-- The lines of a model in front of those of its classes. -/
def frontLines (model : Model) : Lines :=
  ["// Generated by ironxsd. Do not edit.", "", "pub mod " ++ model.package ++ " \x7b",
      "#[allow(unused_imports)]", "use super::*;", ""] ++ model.enums.flatMap Enumeration.lines

theorem lines_eq (model : Model) :
    model.lines = model.frontLines ++ model.classes.flatMap DataClass.lines ++ ["\x7d"] := rfl

end Model

/-! ### Growth -/

theorem flatMap_eq_of_forall₂ {α β : Type} {related : α → α → Prop} {first second : List α}
    {f : α → List β} (same : ∀ x y, related x y → f y = f x)
    (all : List.Forall₂ related first second) : second.flatMap f = first.flatMap f := by
  induction all with
  | nil => rfl
  | cons one _ ih => rw [List.flatMap_cons, List.flatMap_cons, same _ _ one, ih]

theorem append_subset_append {α : Type} {first second more further : List α}
    (left : first ⊆ more) (right : second ⊆ further) : first ++ second ⊆ more ++ further :=
  List.append_subset.mpr ⟨List.subset_append_of_subset_left _ left,
    List.subset_append_of_subset_right _ right⟩

/-- **A class that grows keeps its structure.** -/
theorem derivedLines_of_growsTo {before after : DataClass} (grow : before.GrowsTo after) :
    after.derivedLines = before.derivedLines := by
  let fieldLines (field : Field) : Lines :=
    ["    " ++ field.commentLine, "    " ++ field.declarationLine]
  -- An initializer is not among what these lines show, so they are the same without it.
  have kept (first second : Field) (grow : first.GrowsTo second) :
      fieldLines second = fieldLines first := by
    have uninitialized : fieldLines second.uninitialized = fieldLines first.uninitialized := by
      rw [grow.frame]
    exact uninitialized
  have fields : after.fields.flatMap fieldLines = before.fields.flatMap fieldLines :=
    flatMap_eq_of_forall₂ kept grow.fields
  unfold DataClass.derivedLines DataClass.bodyLines DataClass.commentLine
  rw [grow.name, grow.schemaName, fields]

/-- A class declares what it has declared before it grew, if it had no static members then. -/
theorem declaredNames_of_growsTo {before after : DataClass} (grow : before.GrowsTo after)
    (plain : before.statics = []) : before.declaredNames ⊆ after.declaredNames := by
  unfold DataClass.declaredNames
  rw [plain, List.map_nil, ite_self, List.append_nil, grow.name, names_of_growsTo grow.fields]
  exact List.subset_append_left _ _

/-- **A model that grows declares what it has declared before**, if there were no static members. -/
theorem Model.GrowsTo.declaredNames {before after : Model} (grow : before.GrowsTo after)
    (plain : ∀ c ∈ before.classes, c.statics = []) :
    before.declaredNames ⊆ after.declaredNames := by
  have classes : before.classes.flatMap DataClass.declaredNames ⊆
      after.classes.flatMap DataClass.declaredNames := by
    have grown := grow.classes
    generalize before.classes = first at plain grown
    generalize after.classes = second at grown
    induction grown with
    | nil => exact List.Subset.refl _
    | cons step _ ih =>
      obtain ⟨here, later⟩ := List.forall_mem_cons.mp plain
      rw [List.flatMap_cons, List.flatMap_cons]
      exact append_subset_append (declaredNames_of_growsTo step here) (ih later)
  unfold Model.declaredNames
  rw [grow.package, grow.enums]
  exact append_subset_append (List.Subset.refl _) classes

theorem frontLines_of_growsTo {before after : Model} (grow : before.GrowsTo after) :
    after.frontLines = before.frontLines := by
  unfold Model.frontLines
  rw [grow.package, grow.enums]

/-! ### Generating with and without the pass -/

section

variable {settings : Settings} {schema : Schema}

theorem plugins_enable (without : settings.plugins = []) :
    (settings.enable "Xfixed-value").plugins = ["Xfixed-value"] := by
  have name : pluginName "Xfixed-value" = "Xfixed-value" := by rfl
  simp only [Settings.enable, without, name]
  rfl

theorem modelOf_enable (settings : Settings) (option : String) (schema : Schema) :
    (settings.enable option).modelOf schema = settings.modelOf schema := by
  dsimp only [Settings.enable]
  split <;> rfl

/-- Without plugins the code is that of the model. -/
theorem code_of_no_plugins {model : Model} (without : settings.plugins = []) :
    (model.generate settings).code = checkAll model.declaredNames (Lines.text model.lines) := by
  have run : model.runPlugins settings = { model } := by
    rw [Model.runPlugins, without]
    rfl
  rw [Model.generate, run]
  dsimp only
  rw [Model.source_eq, checkAll_map]

theorem model_runFixedValues (settings : Settings) (model : Model) :
    (runFixedValues settings model).model = (model.applyFixedValues settings).model := by
  unfold runFixedValues
  dsimp only
  split <;> rfl

/-- With the pass the code is that of the model that it leaves behind, and the pass has come to its
end. -/
theorem code_of_fixed_values {model : Model} {code : String}
    (only : settings.plugins = ["Xfixed-value"])
    (generated : (model.generate settings).code = .ok code) :
    (model.applyFixedValues settings).fault = none ∧
      (∀ name ∈ (model.applyFixedValues settings).model.declaredNames,
        isIdentifier name = true) ∧
      Lines.text (model.applyFixedValues settings).model.lines = code := by
  have found : Plugin.find? "Xfixed-value" = some fixedValuePlugin := by rfl
  have run : (model.runPlugins settings).fault = (runFixedValues settings model).fault ∧
      (model.runPlugins settings).model = (runFixedValues settings model).model := by
    rw [Model.runPlugins, only, Plugin.runAll, found]
    dsimp only [fixedValuePlugin]
    cases (runFixedValues settings model).fault <;> exact ⟨rfl, rfl⟩
  unfold Model.generate at generated
  dsimp only at generated
  rw [run.1, run.2, fault_runFixedValues, model_runFixedValues] at generated
  cases ended : (model.applyFixedValues settings).fault with
  | some value =>
    rw [ended] at generated
    exact nomatch generated
  | none =>
    rw [ended] at generated
    dsimp only [Option.map] at generated
    rw [Model.source_eq, checkAll_map] at generated
    exact ⟨rfl, checkAll_eq_ok_iff.mp generated⟩

/-- What is read is generated from its model. -/
theorem exists_model_of_generate {text code : String}
    (generated : (settings.generate text).code = .ok code) :
    ∃ schema, Schema.ofText text = .ok schema ∧
      ((settings.modelOf schema).generate settings).code = .ok code := by
  unfold Settings.generate at generated
  cases accepted : Schema.ofText text with
  | error fault =>
    rw [accepted] at generated
    exact nomatch generated
  | ok schema =>
    rw [accepted] at generated
    exact ⟨schema, rfl, generated⟩

/-- The classes of a schema are written with derived default values. -/
theorem lines_modelOf (settings : Settings) (schema : Schema) :
    (settings.modelOf schema).classes.flatMap DataClass.lines =
      (settings.modelOf schema).classes.flatMap DataClass.derivedLines := by
  refine List.flatMap_congr fun c here => ?_
  have plain : c.hasInitializers = false := hasInitializers_of_mem_ofSchema here
  rw [DataClass.lines_eq, plain]
  exact if_neg Bool.false_ne_true

/-- What a pass over the classes of a schema leaves behind is well initialized, and has no static
member but the slot. -/
theorem initialized_of_pass {c : DataClass}
    (here : c ∈ ((settings.modelOf schema).applyFixedValues settings).model.classes) :
    (∀ field ∈ c.fields, field.WellInitialized (settings.modelOf schema).enums c.statics) ∧
      ∀ member ∈ c.statics, member = settings.slot := by
  obtain ⟨before, old, scanned⟩ := mem_scanClasses here
  have fresh : ∀ field ∈ before.fields, field.initializer = none :=
    fun _ member => initializer_of_mem_ofSchema old member
  have none : before.statics = [] := statics_of_mem_ofSchema old
  rcases scanned with rfl | rfl
  · refine ⟨fun field member => wellInitialized_of_mem_scan fresh member, fun member inside => ?_⟩
    rw [statics_scan, Surroundings.staticsAfter, statics_surroundings, none, List.nil_append]
      at inside
    split at inside
    · exact List.mem_singleton.mp inside
    · exact absurd inside List.not_mem_nil
  · refine ⟨fun field member expr carried => ?_, fun member inside => ?_⟩
    · rw [fresh field member] at carried
      exact absurd carried (by simp)
    · rw [none] at inside
      exact absurd inside List.not_mem_nil

/-- A pass leaves no field behind whose value is written as nothing. -/
theorem givenValue_ne_empty_of_pass {option : String} {c : DataClass}
    (here : c ∈ ((settings.modelOf schema).applyFixedValues (settings.enable option)).model.classes)
    {field : Field} (member : field ∈ c.fields) : field.givenValue ≠ "" := by
  rw [← modelOf_enable settings option] at here
  exact Field.givenValue_ne_empty ((initialized_of_pass here).1 field member)

/-- The fields of the classes that a pass leaves behind have different names. -/
theorem nodup_fieldNames_of_pass {enabled : Settings} {c : DataClass}
    (here : c ∈ ((settings.modelOf schema).applyFixedValues enabled).model.classes) :
    (c.fields.map (·.name)).Nodup := by
  have grown := (growsTo_pass (settings.modelOf schema) enabled).classes
  obtain ⟨before, origin, grow⟩ := exists_of_forall₂_of_mem grown here
  have distinct := grow.distinct (nodup_memberNames_ofSchema origin)
  exact (List.nodup_append.mp distinct).1

end

/-- **Fixed values change nothing in generated code but default values.** If code is generated with
the fixed-value plugin, then code is generated without any plugin. Both consist of lines that are
ended one by one: the same lines at the beginning, then those of the classes that the pass leaves
behind, in order, and a closing brace. Without the plugin the default values of all classes are
derived; with it those of the classes are written out that have a static member or an initializer by
then. A default value that is written out assigns the fields of its structure, all of them and each
of them once, in the order of their declarations. -/
theorem fixed_values_write_defaults {settings : Settings} {text code : String}
    (without : settings.plugins = [])
    (generated : ((settings.enable "Xfixed-value").generate text).code = .ok code) :
    ∃ schema, Schema.ofText text = .ok schema ∧
      let before := settings.modelOf schema
      let pass := before.applyFixedValues (settings.enable "Xfixed-value")
      let classes := pass.model.classes
      let ended (lines : Lines) : String := String.join (lines.map (· ++ "\n"))
      pass.fault = none ∧
        (settings.generate text).code = .ok (ended
          (before.frontLines ++ classes.flatMap DataClass.derivedLines ++ ["\x7d"])) ∧
        code = ended (before.frontLines ++
          classes.flatMap (fun c => if c.hasInitializers then c.writtenLines else c.derivedLines) ++
            ["\x7d"]) ∧
        ∀ c ∈ classes,
          (c.hasInitializers = true ↔
            c.statics ≠ [] ∨ ∃ field ∈ c.fields, field.initializer.isSome = true) ∧
          readFields c.name c.writtenLines = c.fields.map (·.name) ∧
          readDefault? c.name c.writtenLines =
            some (c.fields.map fun field => (field.name, field.givenValue)) ∧
          (c.fields.map (·.name)).Nodup := by
  obtain ⟨schema, accepted, enabled⟩ := exists_model_of_generate generated
  rw [modelOf_enable] at enabled
  refine ⟨schema, accepted, ?_⟩
  intro before pass classes ended
  obtain ⟨finished, valid, rfl⟩ := code_of_fixed_values (plugins_enable without) enabled
  have grow : before.GrowsTo pass.model := growsTo_pass before (settings.enable "Xfixed-value")
  -- The names that are checked without the plugin are checked with it too, and were identifiers.
  have declared : before.declaredNames ⊆ pass.model.declaredNames :=
    grow.declaredNames fun c here => statics_of_mem_ofSchema here
  have derived : classes.flatMap DataClass.derivedLines =
      before.classes.flatMap DataClass.derivedLines :=
    flatMap_eq_of_forall₂ (fun _ _ => derivedLines_of_growsTo) grow.classes
  refine ⟨finished, ?_, ?_, fun c here => ⟨DataClass.hasInitializers_iff, ?_, ?_, ?_⟩⟩
  · have plain : (settings.generate text).code = (before.generate settings).code := by
      rw [Settings.generate, accepted]
    rw [plain, code_of_no_plugins without, derived, ← lines_modelOf, ← Model.lines_eq]
    exact checkAll_eq_ok_iff.mpr ⟨fun name member => valid name (declared member), rfl⟩
  · rw [Model.lines_eq, frontLines_of_growsTo grow, funext DataClass.lines_eq]
    rfl
  · exact readFields_writtenLines fun field member =>
      valid _ (mem_declaredNames_of_field here member)
  · refine readDefault?_writtenLines (fun field member => ?_) fun field member => ?_
    · exact valid _ (mem_declaredNames_of_field here member)
    · exact givenValue_ne_empty_of_pass here member
  · exact nodup_fieldNames_of_pass here

/-- A ticket that is open. -/
def ticketText : String :=
  "<schema><complexType name='ticket'><sequence><element name='state' type='xs:string' " ++
    "fixed='open'/></sequence></complexType></schema>"

/-- The code of a ticket is generated with fixed values and without, from one class. Its default
value is written out with them, and gives the state of the ticket. -/
theorem fixed_values_write_defaults_ticketText :
    let enabled := Settings.enable {} "Xfixed-value"
    ∃ code schema, (enabled.generate ticketText).code = .ok code ∧
      let before := Settings.modelOf {} schema
      let classes := (before.applyFixedValues enabled).model.classes
      let ended (lines : Lines) : String := String.join (lines.map (· ++ "\n"))
      (Settings.generate {} ticketText).code = .ok (ended
          (before.frontLines ++ classes.flatMap DataClass.derivedLines ++ ["\x7d"])) ∧
        code = ended (before.frontLines ++
          classes.flatMap (fun c => if c.hasInitializers then c.writtenLines else c.derivedLines) ++
            ["\x7d"]) ∧
        ∃ c, classes = [c] ∧ c.hasInitializers = true ∧ readFields c.name c.writtenLines = ["state"] ∧
          readDefault? c.name c.writtenLines = some [("state", "String::from(\"open\")")] := by
  intro enabled
  have some : (enabled.generate ticketText).code.toOption.isSome = true := by decide +kernel
  have ticket : (Schema.ofText ticketText).toOption.map (fun schema =>
      ((Settings.modelOf {} schema).applyFixedValues enabled).model.classes.map fun c =>
        (c.hasInitializers, c.fields.map fun field => (field.name, field.givenValue))) =
          .some [(true, [("state", "String::from(\"open\")")])] := by decide +kernel
  obtain ⟨code, kept⟩ := Option.isSome_iff_exists.mp some
  have generated := ok_of_toOption kept
  obtain ⟨schema, accepted, -, plain, written, each⟩ := fixed_values_write_defaults rfl generated
  rw [accepted] at ticket
  obtain ⟨c, single, shown⟩ := List.map_eq_singleton_iff.mp (Option.some.inj ticket)
  obtain ⟨custom, shown⟩ := Prod.mk.inj shown
  obtain ⟨-, declared, assigned, -⟩ := each c (single ▸ List.mem_singleton_self c)
  rw [shown] at assigned
  have names := congrArg (List.map Prod.fst) shown
  rw [List.map_map] at names
  exact ⟨code, schema, generated, plain, written, c, single, custom, declared.trans names, assigned⟩

end SchemaBinding
