/-
**Rendering checks names and writes lines.**

Source is written in two parts that do not depend on each other: which lines a model has, and whether
the names that it declares are identifiers. The lines are a plain function of the model
(`Model.lines`), and so are the declared names, in the order in which they are checked
(`Model.declaredNames`). The source is the lines if all of these names are identifiers, and else the
fault of the first that is not (`Model.source_eq`). No other name is checked.
-/

import SchemaBinding.Generation
import SchemaBinding.Proofs.Source.Blocks

namespace SchemaBinding

/-! ### Checking names -/

section

variable {α β γ : Type}

/-- **A value, if all the names are identifiers**, and else the fault of the first that is not. -/
def checkAll (names : List String) (value : α) : Except GenerationFault α :=
  match names.find? fun name => !isIdentifier name with
  | some name => .error (.identifier name)
  | none => .ok value

theorem checkIdentifier_eq (name : String) : checkIdentifier name = checkAll [name] name := by
  unfold checkIdentifier checkAll
  by_cases valid : isIdentifier name = true <;> simp [valid]

/-- The names of a step are checked before those of what follows it. -/
theorem checkAll_bind (names later : List String) (value : α) (result : β)
    {next : α → Except GenerationFault β} (continues : next value = checkAll later result) :
    (checkAll names value >>= next) = checkAll (names ++ later) result := by
  unfold checkAll at *
  rw [List.find?_append]
  cases names.find? fun name => !isIdentifier name with
  | some name => rfl
  | none => exact continues

theorem checkAll_bind_pure (names : List String) (value : α) (f : α → β) :
    (checkAll names value >>= fun result => pure (f result)) = checkAll names (f value) := by
  have plain : (checkAll names value >>= fun result => pure (f result)) =
      checkAll (names ++ []) (f value) := checkAll_bind names [] value (f value) rfl
  rw [plain, List.append_nil]

theorem checkAll_map (names : List String) (value : α) (f : α → β) :
    (checkAll names value).map f = checkAll names (f value) := by
  unfold checkAll
  cases names.find? fun name => !isIdentifier name <;> rfl

/-- Steps that only check names check all of them, one step after another. -/
theorem mapM_checkAll (items : List γ) (names : γ → List String) (value : γ → α)
    {step : γ → Except GenerationFault α}
    (checks : ∀ item, step item = checkAll (names item) (value item)) :
    items.mapM step = checkAll (items.flatMap names) (items.map value) := by
  induction items with
  | nil => rfl
  | cons item rest ih =>
    rw [List.mapM_cons, checks item, ih]
    exact checkAll_bind _ _ _ _ (checkAll_bind_pure _ _ (value item :: ·))

/-- Steps that check one name each. -/
theorem mapM_checkName (items : List γ) (name : γ → String) (value : γ → α)
    {step : γ → Except GenerationFault α}
    (checks : ∀ item, step item = checkAll [name item] (value item)) :
    items.mapM step = checkAll (items.map name) (items.map value) := by
  rw [mapM_checkAll items (fun item => [name item]) value checks, ← List.map_eq_flatMap]

theorem checkAll_eq_ok_iff {names : List String} {value result : α} :
    checkAll names value = .ok result ↔
      (∀ name ∈ names, isIdentifier name = true) ∧ value = result := by
  unfold checkAll
  cases found : names.find? fun name => !isIdentifier name with
  | some name =>
    have refused : (!isIdentifier name) = true :=
      List.find?_some (p := fun name => !isIdentifier name) found
    constructor
    · intro succeeded
      exact nomatch succeeded
    · rintro ⟨valid, -⟩
      rw [valid name (List.mem_of_find?_eq_some found)] at refused
      exact nomatch refused
  | none =>
    have valid : ∀ name ∈ names, isIdentifier name = true := by
      simpa using List.find?_eq_none.mp found
    constructor
    · intro succeeded
      exact ⟨valid, Except.ok.inj succeeded⟩
    · rintro ⟨-, rfl⟩
      rfl

/-- A check fails at a name that is no identifier. -/
theorem exists_of_checkAll_error {names : List String} {value : α}
    {fault : GenerationFault} (failed : checkAll names value = .error fault) :
    ∃ name ∈ names, isIdentifier name = false ∧ fault = .identifier name := by
  unfold checkAll at failed
  cases found : names.find? fun name => !isIdentifier name with
  | none =>
    rw [found] at failed
    exact nomatch failed
  | some name =>
    rw [found] at failed
    have refused : (!isIdentifier name) = true :=
      List.find?_some (p := fun name => !isIdentifier name) found
    exact ⟨name, List.mem_of_find?_eq_some found, by simpa using refused,
      (Except.error.inj failed).symm⟩

/-- A check fails if and only if some name is no identifier. -/
theorem checkAll_eq_error_iff {names : List String} {value : α} :
    (∃ fault, checkAll names value = .error fault) ↔
      ∃ name ∈ names, isIdentifier name = false := by
  constructor
  · rintro ⟨fault, failed⟩
    obtain ⟨name, member, invalid, -⟩ := exists_of_checkAll_error failed
    exact ⟨name, member, invalid⟩
  · rintro ⟨name, member, invalid⟩
    cases checked : checkAll names value with
    | error fault => exact ⟨fault, rfl⟩
    | ok result =>
      have valid := (checkAll_eq_ok_iff.mp checked).1 name member
      exact absurd valid (Bool.eq_false_iff.mp invalid)

end

/-! ### The lines of a model -/

namespace Field

def commentLine (field : Field) : String := "/// Schema component `" ++ field.schemaName ++ "`."

def declarationLine (field : Field) : String :=
  "pub " ++ field.name ++ ": " ++ field.sourceType ++ ","

theorem declarationLines_eq (field : Field) :
    field.declarationLines =
      checkAll [field.name] [field.commentLine, field.declarationLine] := by
  unfold declarationLines
  rw [checkIdentifier_eq]
  exact checkAll_bind_pure _ _ _

end Field

/-- The line of a static member under its name. -/
def StaticMember.sourceLine (member : StaticMember) : String :=
  "static " ++ member.name ++ ": std::sync::LazyLock<" ++ member.typeName ++
    "> = std::sync::LazyLock::new(|| " ++ member.init.source ++ ");"

theorem StaticMember.line_eq (member : StaticMember) :
    member.line = checkAll [member.name] member.sourceLine := by
  unfold line
  rw [checkIdentifier_eq]
  exact checkAll_bind_pure _ _ _

namespace Enumeration

/-- The names that an enumeration declares. -/
def declaredNames (enumeration : Enumeration) : List String :=
  enumeration.name :: enumeration.constants.map (·.name)

/-- The lines of an enumeration. -/
def lines (enumeration : Enumeration) : Lines :=
  ["/// Generated from simple type `" ++ enumeration.schemaName ++ "`.",
      "#[derive(Debug, Clone, Copy, PartialEq, Eq, Hash, Default)]"] ++
    Lines.block ("pub enum " ++ enumeration.name)
      (constantLines (enumeration.constants.map (·.name))) ++ [""] ++
    Lines.block ("impl " ++ enumeration.name) (conversionLines enumeration.constants) ++ [""]

theorem source_eq (enumeration : Enumeration) :
    enumeration.source = checkAll enumeration.declaredNames enumeration.lines := by
  have names := mapM_checkName enumeration.constants (fun c => c.name) (fun c => c.name)
    fun c => checkIdentifier_eq c.name
  unfold source
  rw [names, checkIdentifier_eq]
  exact checkAll_bind _ _ _ _ (checkAll_bind_pure _ _ _)

end Enumeration

namespace DataClass

/-- The lines of a class as a structure. -/
def structLines (c : DataClass) : Lines :=
  ["/// Generated from complex type `" ++ c.schemaName ++ "`.", c.deriveLine] ++
    Lines.block ("pub struct " ++ c.name)
      (c.fields.flatMap fun field => [field.commentLine, field.declarationLine]) ++ [""]

/-- The lines of the default value of a class. -/
def defaultLines (c : DataClass) : Lines :=
  Lines.block ("impl Default for " ++ c.name)
    (Lines.block "fn default() -> Self"
      (c.statics.map StaticMember.sourceLine ++
        Lines.block "Self" (c.fields.map Field.valueLine))) ++ [""]

/-- The names that a class declares. Static members are written with the default value only. -/
def declaredNames (c : DataClass) : List String :=
  c.name :: c.fields.map (·.name) ++ if c.hasInitializers then c.statics.map (·.name) else []

def lines (c : DataClass) : Lines :=
  c.structLines ++ if c.hasInitializers then c.defaultLines else []

theorem structSource_eq (c : DataClass) :
    c.structSource = checkAll (c.name :: c.fields.map (·.name)) c.structLines := by
  have fields := mapM_checkName c.fields (fun field => field.name)
    (fun field => [field.commentLine, field.declarationLine]) Field.declarationLines_eq
  unfold structSource
  rw [fields, checkIdentifier_eq]
  exact checkAll_bind _ _ _ _ (checkAll_bind_pure _ _ _)

theorem defaultSource_eq (c : DataClass) :
    c.defaultSource = checkAll (c.statics.map (·.name)) c.defaultLines := by
  have statics := mapM_checkName c.statics (fun member => member.name) StaticMember.sourceLine
    StaticMember.line_eq
  unfold defaultSource
  rw [statics]
  exact checkAll_bind_pure _ _ _

theorem source_eq (c : DataClass) : c.source = checkAll c.declaredNames c.lines := by
  unfold source declaredNames lines
  rw [structSource_eq, defaultSource_eq]
  by_cases custom : c.hasInitializers = true
  · simp only [if_pos custom]
    exact checkAll_bind _ _ _ _ (checkAll_bind_pure _ _ _)
  · simp only [if_neg custom]
    exact checkAll_bind _ _ _ _ (by rw [List.append_nil]; rfl)

end DataClass

namespace Model

/-- **The names that the source of a model declares**, in the order in which they are checked. -/
def declaredNames (model : Model) : List String :=
  model.package :: model.enums.flatMap Enumeration.declaredNames ++
    model.classes.flatMap DataClass.declaredNames

/-- **The lines of the source of a model**, whatever its names are. -/
def lines (model : Model) : Lines :=
  ["// Generated by ironxsd. Do not edit.", "", "pub mod " ++ model.package ++ " \x7b",
      "#[allow(unused_imports)]", "use super::*;", ""] ++
    model.enums.flatMap Enumeration.lines ++ model.classes.flatMap DataClass.lines ++ ["\x7d"]

/-- **The source of a model is its lines if all names that it declares are identifiers**, and else
the fault of the first that is not. -/
theorem source_eq (model : Model) : model.source = checkAll model.declaredNames model.lines := by
  have enums : model.enumSource =
      checkAll (model.enums.flatMap Enumeration.declaredNames)
        (model.enums.map Enumeration.lines).flatten := by
    unfold enumSource
    rw [mapM_checkAll _ _ _ Enumeration.source_eq]
    exact checkAll_bind_pure _ _ _
  have classes : model.classSource =
      checkAll (model.classes.flatMap DataClass.declaredNames)
        (model.classes.map DataClass.lines).flatten := by
    unfold classSource
    rw [mapM_checkAll _ _ _ DataClass.source_eq]
    exact checkAll_bind_pure _ _ _
  unfold source
  rw [enums, classes, checkIdentifier_eq]
  exact checkAll_bind _ _ _ _ (checkAll_bind _ _ _ _ (checkAll_bind_pure _ _ _))

end Model

/-! ### What stands in the source of a model -/

section

variable {model : Model} {c : DataClass} {field : Field}

theorem mem_declaredNames_of_class (here : c ∈ model.classes) : c.name ∈ model.declaredNames :=
  List.mem_append_right _ (List.mem_flatMap.mpr ⟨c, here, List.mem_cons_self⟩)

theorem mem_declaredNames_of_field (here : c ∈ model.classes) (member : field ∈ c.fields) :
    field.name ∈ model.declaredNames := by
  refine List.mem_append_right _ (List.mem_flatMap.mpr ⟨c, here, List.mem_append_left _ ?_⟩)
  exact List.mem_cons_of_mem _ (List.mem_map_of_mem member)

theorem mem_declaredNames_of_enumeration {enumeration : Enumeration}
    (member : enumeration ∈ model.enums) : enumeration.name ∈ model.declaredNames := by
  refine List.mem_append_left _ (List.mem_cons_of_mem _ ?_)
  exact List.mem_flatMap.mpr ⟨enumeration, member, List.mem_cons_self⟩

/-- Every field is declared in the source of its class. -/
theorem declarationLine_mem_lines (here : c ∈ model.classes) (member : field ∈ c.fields) :
    "    " ++ field.declarationLine ∈ model.lines := by
  have nonempty : field.declarationLine ≠ "" := Lines.append_ne_empty (by decide) _
  rw [← Lines.indentLine_eq nonempty]
  have inStruct : Lines.indentLine field.declarationLine ∈ c.structLines := by
    have written : field.declarationLine ∈
        c.fields.flatMap fun field => [field.commentLine, field.declarationLine] :=
      List.mem_flatMap.mpr ⟨field, member, List.mem_cons_of_mem _ List.mem_cons_self⟩
    have indented := List.mem_map_of_mem (f := Lines.indentLine) written
    unfold DataClass.structLines Lines.block
    simp only [List.mem_append, List.mem_cons]
    exact .inl (.inr (.inr (.inl indented)))
  have inClass : Lines.indentLine field.declarationLine ∈ c.lines :=
    List.mem_append_left _ inStruct
  unfold Model.lines
  refine List.mem_append_left _ (List.mem_append_right _ ?_)
  exact List.mem_flatMap.mpr ⟨c, here, inClass⟩

end

/-! ### The code of a schema -/

/-- **The code of a schema is the text of the lines of its model**, if the names that the model
declares are identifiers. -/
theorem generate_of_schema {text : String} {schema : Schema}
    (accepted : Schema.ofText text = .ok schema) :
    (Settings.generate {} text).code =
      checkAll (Model.ofSchema schema).declaredNames
        (Lines.text (Model.ofSchema schema).lines) := by
  have code : (Settings.generate {} text).code =
      (Model.ofSchema schema).source.map Lines.text := by
    unfold Settings.generate
    rw [accepted]
    rfl
  rw [code, Model.source_eq, checkAll_map]

/-- Code is generated only for the text of a schema. -/
theorem exists_schema_of_generate {text code : String}
    (generated : (Settings.generate {} text).code = .ok code) :
    ∃ schema, Schema.ofText text = .ok schema ∧
      (∀ name ∈ (Model.ofSchema schema).declaredNames, isIdentifier name = true) ∧
      code = Lines.text (Model.ofSchema schema).lines := by
  cases accepted : Schema.ofText text with
  | error fault =>
    unfold Settings.generate at generated
    rw [accepted] at generated
    exact nomatch generated
  | ok schema =>
    rw [generate_of_schema accepted, checkAll_eq_ok_iff] at generated
    exact ⟨schema, rfl, generated.1, generated.2.symm⟩

end SchemaBinding
