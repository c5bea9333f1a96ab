/-
**What is logged.**

Log events are data: each has a level, the component of the program that it comes from, a message,
and named texts in the order in which they are shown.
-/

import SchemaBinding.FixedValue.Report
import SchemaBinding.Text.Terminal

namespace SchemaBinding

inductive Level
  | debug
  | info
  | warn
  | error
deriving DecidableEq, Repr

def Level.word : Level → String
  | .debug => "DEBUG"
  | .info => "INFO"
  | .warn => "WARN"
  | .error => "ERROR"

inductive LogEvent
  | runningPlugin (name : String)
  | slotAdded (className slot : String)
  | fieldInitialized (className field : String) (expr : Expr)
  | diagnosed (diagnostic : Diagnostic)
  /-- A fixed-value pass has come to its end and initialized so many fields. -/
  | passComplete (initialized : Nat)
  | codeWritten (path : String)
deriving Repr

namespace LogEvent

def level : LogEvent → Level
  | runningPlugin _ => .debug
  | slotAdded _ _ => .debug
  | fieldInitialized _ _ _ => .info
  | diagnosed diagnostic =>
    match diagnostic.severity with
    | .warning => .warn
    | .error => .error
  | passComplete _ => .debug
  | codeWritten _ => .info

/-- The component of the program that an event comes from. -/
def target : LogEvent → String
  | runningPlugin _ => "ironxsd_codegen"
  | slotAdded _ _ => "ironxsd_codegen::fixed_value::helper"
  | fieldInitialized _ _ _ => "ironxsd_codegen::fixed_value"
  | diagnosed _ => "ironxsd_codegen::diagnostic"
  | passComplete _ => "ironxsd_codegen::fixed_value"
  | codeWritten _ => "ironxsd"

def message : LogEvent → String
  | runningPlugin _ => "running plugin"
  | slotAdded _ _ => "installed datatype factory slot"
  | fieldInitialized className field expr =>
    "Initializing field " ++ className ++ "." ++ field ++ " to " ++ expr.display
  | diagnosed diagnostic => diagnostic.message
  | passComplete _ => "fixed-value pass complete"
  | codeWritten _ => "generated code written"

def fields : LogEvent → List (String × String)
  | runningPlugin name => [("plugin", name)]
  | slotAdded className slot => [("class", className), ("slot", slot)]
  | fieldInitialized className field expr =>
    [("class", className), ("field", field), ("initializer", expr.display)]
  | diagnosed diagnostic => [("class", diagnostic.className), ("field", diagnostic.field)]
  | passComplete initialized => [("initialized", toString initialized)]
  | codeWritten path => [("output", path)]

/-- An event on one line of a terminal: level, target, message, and the named texts. -/
def line (event : LogEvent) : String :=
  event.level.word ++ " " ++ event.target ++ ": " ++ terminalText event.message ++
    String.join (event.fields.map fun (name, text) => " " ++ name ++ "=" ++ text)

end LogEvent

end SchemaBinding
