/-
**What becomes of each field in a fixed-value pass.**

A field is initialized, or skipped for a reason that needs no attention, or left as it is with a
diagnostic. The report of a pass has one entry for each field that was visited, in order.
-/

import SchemaBinding.Expr
import SchemaBinding.Model.Enumeration

namespace SchemaBinding

/-- Why a field is passed over without a diagnostic. -/
inductive SkipReason
  /-- The field stems from an attribute, or from no component at all. -/
  | notParticle
  /-- The field stems from a reference to a group or from a wildcard. -/
  | notElement
  | noFixedValue
  | alreadyInitialized
deriving DecidableEq, Repr

/-- How serious a diagnostic is. In no case does it end the pass. -/
inductive Severity
  | warning
  | error
deriving DecidableEq, Repr

/-- Why a fixed value does not become an initializer. -/
inductive Problem
  /-- Values of the type have no literal. -/
  | unsupportedType (typeName value : String)
  /-- The value is no constant of its enumeration. -/
  | enumLookup (fault : EnumLookupFault)
  /-- The static member that the value is built through cannot be added. -/
  | slotRefused (slot cause : String)
deriving DecidableEq, Repr

structure Diagnostic where
  className : String
  field : String
  problem : Problem
deriving DecidableEq, Repr

namespace Diagnostic

/-- The severity of a diagnostic: a refused static member is a fault of the model, everything else
one of the schema. -/
def severity (d : Diagnostic) : Severity :=
  match d.problem with
  | .slotRefused _ _ => .error
  | _ => .warning

def message (d : Diagnostic) : String :=
  "Did not create default value for field " ++ d.className ++ "." ++ d.field ++
    match d.problem with
    | .unsupportedType typeName value =>
      ". Don't know how to create default value expression for fields of type " ++ typeName ++
        ". Default value of \"" ++ value ++ "\" specified in schema"
    | .enumLookup fault => ": " ++ fault.message
    | .slotRefused slot cause => ": failed to install " ++ slot ++ ": " ++ cause

end Diagnostic

/-- What becomes of a field. -/
inductive Outcome
  | initialized (expr : Expr)
  | skipped (reason : SkipReason)
  | diagnosed (diagnostic : Diagnostic)
deriving Repr

structure FieldReport where
  className : String
  field : String
  outcome : Outcome
deriving Repr

def FieldReport.initializer? (entry : FieldReport) : Option Expr :=
  match entry.outcome with
  | .initialized expr => some expr
  | _ => none

def FieldReport.diagnostic? (entry : FieldReport) : Option Diagnostic :=
  match entry.outcome with
  | .diagnosed diagnostic => some diagnostic
  | _ => none

abbrev Report := List FieldReport

namespace Report

def initialized (report : Report) : Report := report.filter (·.initializer?.isSome)

def diagnostics (report : Report) : List Diagnostic := report.filterMap (·.diagnostic?)

end Report

end SchemaBinding
