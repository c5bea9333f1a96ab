/-
**The program: a run of the command line on the files of the system.**

What the run needs of the file system is asked for before it, and what it gives is written after it.
-/

import SchemaBinding.CommandLine.Run

namespace SchemaBinding.CommandLine

/-- Whether a number of a system error is the given one, which some calls give negated. -/
def isNumbered (code number : UInt32) : Bool := code == number || code == 0 - number

def fileFault : IO.Error → FileFault
  | .noFileOrDirectory .. => .notFound
  | .permissionDenied .. => .permissionDenied
  | .inappropriateType _ code _ => if isNumbered code 20 then .notADirectory else .isADirectory
  | failure@(.invalidArgument _ code _) =>
    if isNumbered code 36 then .nameTooLong else .other (toString failure)
  | failure => .other (toString failure)

/-- What is at a path of the file system. -/
def readFile (path : String) : IO (Except FileFault ByteArray) := do
  try
    return .ok (← IO.FS.readBinFile path)
  catch failure => return .error (fileFault failure)

/-- Why a path of the file system cannot be written. A path that can be is left with an empty
file. -/
def tryWriting (path : String) : IO (Option FileFault) := do
  try
    IO.FS.writeFile path ""
    return none
  catch failure => return some (fileFault failure)

/-- The answers of the file system to a run with the given arguments. The output is asked for only
if there is code to be written. -/
def answers (arguments : List String) : IO Files := do
  match Arguments.read arguments with
  | .error _ => return { read := fun _ => .error .notFound, refusal? := fun _ => none }
  | .ok args =>
    let schema ← match args.schema with
      | some path => readFile path
      | none => pure (.error .notFound)
    let generated := (args.settings.generateFrom schema).code.isOk
    let refusal ← match args.output with
      | some path => if generated && !args.listPlugins then tryWriting path else pure none
      | none => pure none
    return { read := fun _ => schema, refusal? := fun _ => refusal }

end SchemaBinding.CommandLine

open SchemaBinding.CommandLine in
def main (arguments : List String) : IO UInt32 := do
  let result := run (← answers arguments) arguments
  IO.print result.stdout
  match result.stderr with
  | some lines => lines.forM IO.eprintln
  | none => IO.eprintln "Usage: ironxsd [OPTIONS] [SCHEMA]"
  if let some (path, code) := result.written then IO.FS.writeFile path code
  return UInt32.ofNat result.exit
