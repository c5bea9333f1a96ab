/-
**Why a generation fails.**

A schema file may not be readable, its text may not be a schema, a plugin may be unknown or find a
fixed value malformed, and a name may not be one that can be written in generated code. A fault is
told in one sentence, or as the list of its causes from the outside in; some sentences repeat what
the next one says.
-/

import SchemaBinding.FixedValue.Pass
import SchemaBinding.Schema.Fault

namespace SchemaBinding

inductive FileFault
  | notFound
  | notADirectory
  | isADirectory
  | permissionDenied
  | nameTooLong
  | notText
  /-- Anything else, in the words of the system. -/
  | other (message : String)
deriving DecidableEq, Repr

/-- The wording of a file fault, with the number that the system gives it. -/
def FileFault.message : FileFault → String
  | .notFound => "No such file or directory (os error 2)"
  | .permissionDenied => "Permission denied (os error 13)"
  | .notADirectory => "Not a directory (os error 20)"
  | .isADirectory => "Is a directory (os error 21)"
  | .nameTooLong => "File name too long (os error 36)"
  | .notText => "stream did not contain valid UTF-8"
  | .other message => message

inductive GenerationFault
  | schema (fault : SchemaFault)
  | file (fault : FileFault)
  | malformedValue (value : MalformedValue)
  | unknownPlugin (option : String)
  /-- The name cannot be written as an identifier. -/
  | identifier (name : String)
deriving DecidableEq, Repr

namespace GenerationFault

def message : GenerationFault → String
  | schema fault => "schema parse error: " ++ fault.message
  | file fault => "IO error: " ++ fault.message
  | malformedValue v =>
    "invalid fixed value \"" ++ v.value ++ "\" for field " ++ v.className ++ "." ++ v.field
  | unknownPlugin option => "unknown plugin option '" ++ option ++ "'"
  | identifier name => "generation error: '" ++ name ++ "' is not a valid Rust identifier"

/-- The wording of a generation fault and of the faults that it stems from, outermost first. -/
def causes (fault : GenerationFault) : List String :=
  fault.message :: match fault with
    | schema inner => inner.causes
    | file inner => [inner.message]
    | malformedValue v => v.fault.causes
    | _ => []

end GenerationFault

def causeChain (causes : List String) : String := ": ".intercalate causes

end SchemaBinding
