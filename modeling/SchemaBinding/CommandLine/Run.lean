/-
**A run of the command line.**

A run is a function of its arguments and of the answers of the file system: what is at the path of
the schema, and whether the path of the output can be written. It gives the exit code, the text for
standard output, the lines for standard error, and the file to be written. Warnings are always
shown, and informational events if the arguments ask for them.
-/

import SchemaBinding.CommandLine.Arguments
import SchemaBinding.Generation

namespace SchemaBinding.CommandLine

def versionLine : String := "ironxsd 0.3.0"

def helpLines : List String := [
  "Generate Rust data types from an XML Schema",
  "",
  "Usage: ironxsd [OPTIONS] [SCHEMA]",
  "",
  "Arguments:",
  "  [SCHEMA]  XML Schema file to compile",
  "",
  "Options:",
  "  -o, --output <OUTPUT>    Write generated code to file instead of stdout",
  "  -v, --verbose            Log every change made by plugins",
  "  -X <PLUGIN>              Enable a plugin, e.g. -Xfixed-value",
  "      --package <PACKAGE>  Name of the generated module",
  "      --list-plugins       List available plugins and exit",
  "  -h, --help               Print help",
  "  -V, --version            Print version"]

/-- The answers of the file system to one run. -/
structure Files where
  read : String → Except FileFault ByteArray
  /-- Whether a path can be written, and why not. -/
  refusal? : String → Option FileFault

structure Result where
  exit : Nat := 0
  stdout : String := ""
  /-- The lines for standard error, none if the arguments are refused in words of their own. -/
  stderr : Option (List String) := some []
  written : Option (String × String) := none

def isShown (verbose : Bool) (event : LogEvent) : Bool :=
  match event.level with
  | .debug => false
  | .info => verbose
  | .warn | .error => true

def splitLines (text : String) : List String := text.splitOn "\n"

def logLines (verbose : Bool) (events : List LogEvent) : List String :=
  (events.filter (isShown verbose)).flatMap fun event => splitLines event.line

/-- Lines of which the first one begins with `lead` and the others with as many blanks. -/
def hangingLines (lead : String) (text : String) : List String :=
  match splitLines text with
  | [] => []
  | first :: rest => (lead ++ first) :: rest.map ("".pushn ' ' lead.length ++ ·)

/-- A number, at the right end of five places. -/
def numberLead (number : Nat) : String :=
  let digits := toString number
  "".pushn ' ' (5 - digits.length) ++ digits ++ ": "

/-- The causes of an error, which are numbered if there are several. -/
def causeLines : List String → List String
  | [] => []
  | [cause] => hangingLines "    " cause
  | causes => causes.zipIdx.flatMap fun (cause, number) => hangingLines (numberLead number) cause

/-- The lines that tell of an error: what could not be done, and why. -/
def errorLines (context : String) (causes : List String) : List String :=
  splitLines ("Error: " ++ context) ++ ["", "Caused by:"] ++ causeLines causes

/-- The settings that the arguments ask for. The option of a plugin is its name behind an `X`. -/
def Arguments.settings (args : Arguments) : Settings :=
  args.plugins.foldl (fun settings name => settings.enable ("X" ++ name))
    { verbose := args.verbose, package := args.package }

/-- Writes the generated code where the arguments ask for it. -/
def deliver (files : Files) (args : Arguments) (shown : List String) (code : String) : Result :=
  match args.output with
  | none => { stdout := code, stderr := some shown }
  | some path =>
    match files.refusal? path with
    | some fault =>
      { exit := 1
        stderr := some (shown ++ errorLines ("failed to write " ++ path) [fault.message]) }
    | none =>
      { stderr := some (shown ++ logLines args.verbose [.codeWritten path])
        written := some (path, code) }

def generate (files : Files) (args : Arguments) (path : String) : Result :=
  let generation := args.settings.generateFrom (files.read path)
  let shown := logLines args.verbose generation.log
  match generation.code with
  | .ok code => deliver files args shown code
  | .error fault =>
    { exit := 1
      stderr := some (shown ++ errorLines ("failed to generate code from " ++ path) fault.causes) }

def run (files : Files) (arguments : List String) : Result :=
  match Arguments.read arguments with
  | .error .usage => { exit := 2, stderr := none }
  | .error .version => { stdout := versionLine ++ "\n" }
  | .error .help => { stdout := Lines.text helpLines }
  | .ok args =>
    if args.listPlugins then { stdout := Lines.text (Plugin.registry.map (·.usage)) }
    else
      match args.schema with
      | none => { exit := 2, stderr := none }
      | some path => generate files args path

end SchemaBinding.CommandLine
