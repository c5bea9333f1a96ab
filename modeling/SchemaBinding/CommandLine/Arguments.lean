/-
**The arguments of the command line.**

Arguments are taken from left to right. Flags and options have a long name, a letter or both;
letters may be bundled behind one hyphen, and an option takes its value from the rest of the bundle,
behind an equals sign, or from the next argument, which must not look like an option itself. All
but one of them may be given only once. Behind `--` every argument is the schema, of which there is
one. The first argument that breaks a rule decides the outcome, and so does a request for the
version or for help that comes before it.
-/

namespace SchemaBinding.CommandLine

structure Arguments where
  schema : Option String := none
  output : Option String := none
  verbose : Bool := false
  /-- The names of plugins, in order. -/
  plugins : List String := []
  package : Option String := none
  listPlugins : Bool := false
deriving DecidableEq, Repr

/-- Why the arguments are not carried out. -/
inductive Refusal
  | usage
  | version
  | help
deriving DecidableEq, Repr

/-- A flag, which stands alone, or an option, which takes a value. -/
inductive Switch
  | output
  | verbose
  | plugin
  | package
  | listPlugins
  | version
  | help
deriving DecidableEq, Repr

namespace Switch

def ofName? : String → Option Switch
  | "output" => some output
  | "verbose" => some verbose
  | "package" => some package
  | "list-plugins" => some listPlugins
  | "version" => some version
  | "help" => some help
  | _ => none

def ofLetter? : Char → Option Switch
  | 'o' => some output
  | 'v' => some verbose
  | 'X' => some plugin
  | 'V' => some version
  | 'h' => some help
  | _ => none

def takesValue : Switch → Bool
  | output => true
  | plugin => true
  | package => true
  | _ => false

end Switch

abbrev Taken := Except Refusal Arguments

namespace Arguments

def setFlag (args : Arguments) : Switch → Taken
  | .verbose => if args.verbose then .error .usage else .ok { args with verbose := true }
  | .listPlugins =>
    if args.listPlugins then .error .usage else .ok { args with listPlugins := true }
  | .version => .error .version
  | .help => .error .help
  | _ => .error .usage

/-- Takes an option with its value. The path of a file must not be empty. -/
def setOption (args : Arguments) (value : String) : Switch → Taken
  | .output =>
    if args.output.isSome || value.isEmpty then .error .usage
    else .ok { args with output := some value }
  | .package =>
    if args.package.isSome then .error .usage else .ok { args with package := some value }
  | .plugin => .ok { args with plugins := args.plugins ++ [value] }
  | _ => .error .usage

/-- Takes an argument that belongs to no option. -/
def setSchema (args : Arguments) (value : String) : Taken :=
  if args.schema.isSome || value.isEmpty then .error .usage
  else .ok { args with schema := some value }

/-- Takes the letters of a bundle, up to the end or to an option. An option that finds no value in
the bundle is handed back. -/
def takeBundle (args : Arguments) : List Char → Except Refusal (Arguments × Option Switch)
  | [] => .ok (args, none)
  | letter :: rest =>
    match Switch.ofLetter? letter with
    | none => .error .usage
    | some switch =>
      if switch.takesValue then
        match rest with
        | [] => .ok (args, some switch)
        | '=' :: value => (args.setOption (String.ofList value) switch).map fun a => (a, none)
        | value => (args.setOption (String.ofList value) switch).map fun a => (a, none)
      else
        match args.setFlag switch with
        | .ok args => takeBundle args rest
        | .error refusal => .error refusal

/-- Takes a long name, with a value behind an equals sign if there is one. An option without a value
is handed back. -/
def takeLong (args : Arguments) (text : List Char) : Except Refusal (Arguments × Option Switch) :=
  let name := String.ofList (text.takeWhile (· != '='))
  match Switch.ofName? name, text.dropWhile (· != '=') with
  | none, _ => .error .usage
  | some switch, [] =>
    if switch.takesValue then .ok (args, some switch)
    else (args.setFlag switch).map fun a => (a, none)
  | some switch, _ :: value =>
    if switch.takesValue then
      (args.setOption (String.ofList value) switch).map fun a => (a, none)
    else .error .usage

/-- Whether an argument looks like a switch, which a lone hyphen does not. -/
def looksLikeSwitch (argument : String) : Bool :=
  match argument.toList with
  | '-' :: _ :: _ => true
  | _ => false

/-- Takes one argument. The result has an option that still needs its value, if there is one. -/
def take (args : Arguments) (argument : String) : Except Refusal (Arguments × Option Switch) :=
  match argument.toList with
  | '-' :: '-' :: name => args.takeLong name
  | '-' :: letter :: rest => args.takeBundle (letter :: rest)
  | _ => (args.setSchema argument).map fun a => (a, none)

/-- Takes all arguments, where an option may still need its value. -/
def takeAll (args : Arguments) (waiting : Option Switch) : List String → Taken
  | [] => if waiting.isSome then .error .usage else .ok args
  | argument :: rest =>
    match waiting with
    | some switch =>
      if looksLikeSwitch argument then .error .usage
      else
        match args.setOption argument switch with
        | .ok args => takeAll args none rest
        | .error refusal => .error refusal
    | none =>
      if argument = "--" then rest.foldlM setSchema args
      else
        match args.take argument with
        | .ok (args, waiting) => takeAll args waiting rest
        | .error refusal => .error refusal

/-- Reads the arguments of the command line. A schema is needed, unless the plugins are listed. -/
def read (arguments : List String) : Taken :=
  match takeAll {} none arguments with
  | .ok args => if args.schema.isNone && !args.listPlugins then .error .usage else .ok args
  | .error refusal => .error refusal

end Arguments

end SchemaBinding.CommandLine
