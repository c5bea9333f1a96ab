/-
**The fixed-value pass.**

The pass visits every field of every class, in order. A field that stems from an element with a
fixed value, and has no initializer yet, gets one if the value can be written as an expression of
its type; the static member that date and time values need is added to the class along the way.
What cannot be written is diagnosed, and the pass goes on. Only a value that is malformed for its
type ends the pass: the fields before it are done, that field and all later ones are as they were.

The pass is written as a recursion over the fields that are left, so what it does to a field depends
on what came before it only through the static members of the class and the name of the member that
is already known to be there.
-/

import SchemaBinding.FixedValue.Literal
import SchemaBinding.FixedValue.Slot
import SchemaBinding.Log

namespace SchemaBinding

/-- The fixed value of a field, or the reason why it has none. -/
def Field.fixedValue (field : Field) : Except SkipReason String :=
  match field.origin with
  | .particle particle =>
    match particle.element? with
    | none => .error .notElement
    | some decl =>
      match decl.fixedValue with
      | none => .error .noFixedValue
      | some value => .ok value
  | _ => .error .notParticle

/-- A malformed fixed value, and the field that has it. -/
structure MalformedValue where
  className : String
  field : String
  value : String
  fault : LiteralFault
deriving DecidableEq, Repr

/-- The class with the slot, the name of the slot, and what is logged. A slot that is known to be
there is not looked for again. -/
def DataClass.slotFor (c : DataClass) (settings : Settings) (known : Option String) :
    Except MemberFault (DataClass × String × List LogEvent) :=
  match known with
  | some slot => .ok (c, slot, [])
  | none =>
    (c.ensureSlot settings).map fun extended =>
      (extended, settings.slotName,
        if c.hasSlot settings then [] else [.slotAdded c.name settings.slotName])

/-- What the visit of a field leaves behind, apart from the field itself. -/
structure Visit where
  /-- The class, with the slot if the field needed it. -/
  owner : DataClass
  /-- The name of the slot, if it is known to be there. -/
  slot : Option String
  outcome : Outcome
  log : List LogEvent := []

namespace DataClass

/-- The visit of a field that leaves its class as it is. -/
def unchanged (c : DataClass) (slot : Option String) (outcome : Outcome) : Visit :=
  { owner := c, slot, outcome }

/-- The visit of a field with a fixed value that is not initialized yet. -/
def visitValue (c : DataClass) (enums : List Enumeration) (settings : Settings)
    (slot : Option String) (field : Field) (value : String) : Except LiteralFault Visit :=
  let initialized (expr : Expr) : Visit := c.unchanged slot (.initialized expr)
  let diagnosed (problem : Problem) : Visit :=
    c.unchanged slot (.diagnosed ⟨c.name, field.name, problem⟩)
  match LiteralKind.ofField field with
  | .text => .ok (initialized (.text value))
  | .boolean => (readBoolean value).map fun b => initialized (.boolean b)
  | .narrowInteger width => (readNarrow width value).map fun n => initialized (.int n)
  | .longInteger => (readLong value).map fun n => initialized (.long n)
  | .float => (readSingle value).map fun bits => initialized (.float bits)
  | .double => (readDouble value).map fun bits => initialized (.double bits)
  | .enumeration name =>
    match findEnumConstant enums name value with
    | .ok constant => .ok (initialized (.enumConstant name constant.name))
    | .error fault => .ok (diagnosed (.enumLookup fault))
  | .temporal =>
    match c.slotFor settings slot with
    | .ok (owner, slot, log) =>
      .ok { owner, slot := some slot, outcome := .initialized (temporalExpr slot value), log }
    | .error fault => .ok (diagnosed (.slotRefused settings.slotName fault.message))
  | .unsupported typeName => .ok (diagnosed (.unsupportedType typeName value))

def visit (c : DataClass) (enums : List Enumeration) (settings : Settings) (slot : Option String)
    (field : Field) : Except MalformedValue Visit :=
  match field.fixedValue with
  | .error reason => .ok (c.unchanged slot (.skipped reason))
  | .ok value =>
    if field.initializer.isSome then .ok (c.unchanged slot (.skipped .alreadyInitialized))
    else
      (c.visitValue enums settings slot field value).mapError fun fault =>
        { className := c.name, field := field.name, value, fault }

end DataClass

/-- A field after a visit with the given outcome. -/
def Field.after (field : Field) (outcome : Outcome) : Field :=
  match outcome with
  | .initialized expr => { field with initializer := some expr }
  | _ => field

structure FieldScan where
  fields : List Field
  statics : List StaticMember
  report : Report := []
  log : List LogEvent := []
  fault : Option MalformedValue := none

/-- Visits the fields that are left of a class, up to the first malformed value. -/
def scanFields (enums : List Enumeration) (settings : Settings) (c : DataClass)
    (slot : Option String) : List Field → FieldScan
  | [] => { fields := [], statics := c.statics }
  | field :: rest =>
    match c.visit enums settings slot field with
    | .error fault => { fields := field :: rest, statics := c.statics, fault := some fault }
    | .ok visit =>
      let later := scanFields enums settings visit.owner visit.slot rest
      { later with
        fields := field.after visit.outcome :: later.fields
        report := ⟨c.name, field.name, visit.outcome⟩ :: later.report
        log := visit.log ++ later.log }

structure ClassScan where
  result : DataClass
  report : Report
  log : List LogEvent
  fault : Option MalformedValue

def DataClass.scan (c : DataClass) (enums : List Enumeration) (settings : Settings) : ClassScan :=
  let scan := scanFields enums settings c none c.fields
  { result := { c with fields := scan.fields, statics := scan.statics }
    report := scan.report
    log := scan.log
    fault := scan.fault }

structure ClassesScan where
  classes : List DataClass
  report : Report := []
  log : List LogEvent := []
  fault : Option MalformedValue := none

/-- Scans the classes that are left, up to the first malformed value. -/
def scanClasses (enums : List Enumeration) (settings : Settings) : List DataClass → ClassesScan
  | [] => { classes := [] }
  | c :: rest =>
    let scan := c.scan enums settings
    match scan.fault with
    | some fault =>
      { classes := scan.result :: rest, report := scan.report, log := scan.log
        fault := some fault }
    | none =>
      let later := scanClasses enums settings rest
      { later with
        classes := scan.result :: later.classes
        report := scan.report ++ later.report
        log := scan.log ++ later.log }

/-- What a fixed-value pass over a model leaves behind: the model, the report of the fields that
were visited, what was logged, and the malformed value that ended the pass if there was one. -/
structure PassResult where
  model : Model
  report : Report
  log : List LogEvent
  fault : Option MalformedValue

def Model.applyFixedValues (model : Model) (settings : Settings) : PassResult :=
  let scan := scanClasses model.enums settings model.classes
  { model := { model with classes := scan.classes }
    report := scan.report
    log := scan.log
    fault := scan.fault }

end SchemaBinding
