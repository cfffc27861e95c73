/-!
# Arguments

The arguments of the command line are options of the program, the name of a
command, and then the options and names that belong to the command.

An option has a long form after two dashes and mostly a short form of one
letter after one dash.  Short forms can be joined.  The value of an option
follows it as the next argument, after an equals sign, or, after a short form,
at once.  Two dashes alone end the options, and one dash alone is a name.
-/

namespace TerseSchema
namespace CommandLine

/-- Switches, which are on or off. -/
inductive Switch
  | verbose
  | noPrimaryKey
  | allowNull
  | strict
  | pretty
  deriving DecidableEq

/-- What an option asks for. -/
inductive Request
  | turnOn (switch : Switch)
  | input
  | help
  | version
  deriving DecidableEq

/-- An option with its forms. -/
structure OptionForm where
  request : Request
  long : String
  short : Option Char

/-- Where an argument stands. -/
inductive Level
  | program
  | compile
  | normalize
  deriving DecidableEq

namespace Level

/-- The options of every level. -/
def sharedOptions : List OptionForm :=
  [⟨.turnOn .verbose, "verbose", some 'v'⟩, ⟨.help, "help", some 'h'⟩]

/-- The options of a level. -/
def options : Level → List OptionForm
  | .program => ⟨.version, "version", some 'V'⟩ :: sharedOptions
  | .compile =>
      [⟨.input, "input", some 'i'⟩,
       ⟨.turnOn .noPrimaryKey, "no-primary-key", none⟩,
       ⟨.turnOn .allowNull, "allow-null", none⟩,
       ⟨.turnOn .strict, "strict", none⟩,
       ⟨.turnOn .pretty, "pretty", some 'p'⟩] ++ sharedOptions
  | .normalize => sharedOptions

/-- What a long form asks for. -/
def ofLong? (level : Level) (long : String) : Option Request :=
  (level.options.find? fun form => form.long = long).map (·.request)

/-- What a short form asks for. -/
def ofShort? (level : Level) (short : Char) : Option Request :=
  (level.options.find? fun form => form.short = some short).map (·.request)

end Level

/-- Why the arguments are not those of a command. -/
inductive Stop
  | usage
  | help
  | version
  deriving DecidableEq

/-- What the arguments of one level have given so far. -/
structure Given where
  switches : List Switch
  input : Option String
  names : List String

namespace Given

/-- Nothing yet. -/
def none : Given := ⟨[], Option.none, []⟩

/-- Whether a switch was turned on. -/
def has (given : Given) (switch : Switch) : Bool :=
  given.switches.contains switch

/-- Turn a switch on, once. -/
def turnOn (given : Given) (switch : Switch) : Except Stop Given :=
  if given.has switch then .error .usage
  else .ok { given with switches := switch :: given.switches }

/-- Set the input, once, to a value that is not empty. -/
def setInput (given : Given) (value : List Char) : Except Stop Given :=
  if given.input.isSome || value.isEmpty then .error .usage
  else .ok { given with input := some (String.ofList value) }

/-- Add names at the end.  Only one level takes names. -/
def addNames (given : Given) (level : Level) (names : List String) :
    Except Stop Given :=
  if names.isEmpty || level = .normalize then
    .ok { given with names := given.names ++ names }
  else .error .usage

end Given

/-- Read joined short forms.  The second result tells whether the value of the
last one is still missing. -/
def readShort (level : Level) (given : Given) :
    List Char → Except Stop (Given × Bool)
  | [] => .ok (given, false)
  | letter :: rest =>
      match level.ofShort? letter with
      | none => .error .usage
      | some .help => .error .help
      | some .version => .error .version
      | some (.turnOn switch) => do
          readShort level (← given.turnOn switch) rest
      | some .input =>
          match rest with
          | [] => .ok (given, true)
          | '=' :: value => do .ok (← given.setInput value, false)
          | value => do .ok (← given.setInput value, false)

/-- Read a long form.  The second result tells whether its value is still
missing. -/
def readLong (level : Level) (given : Given) (characters : List Char) :
    Except Stop (Given × Bool) :=
  let long := String.ofList (characters.takeWhile (· != '='))
  let value := characters.dropWhile (· != '=')
  match level.ofLong? long, value with
  | some .help, [] => .error .help
  | some .version, [] => .error .version
  | some (.turnOn switch), [] => do .ok (← given.turnOn switch, false)
  | some .input, [] => .ok (given, true)
  | some .input, _ :: text => do .ok (← given.setInput text, false)
  | _, _ => .error .usage

/-- The forms of one argument. -/
inductive Word
  | endOfOptions
  | long (characters : List Char)
  | short (characters : List Char)
  | name
  deriving DecidableEq

/-- The form of an argument. -/
def Word.ofArgument (argument : String) : Word :=
  match argument.toList with
  | ['-', '-'] => .endOfOptions
  | '-' :: '-' :: characters => .long characters
  | ['-'] => .name
  | '-' :: characters => .short characters
  | _ => .name

/-- Read all arguments of one level after its name.  The flag tells whether
the value of an option is still missing. -/
def readArguments (level : Level) :
    Given → Bool → List String → Except Stop Given
  | given, missing, [] => if missing then .error .usage else .ok given
  | given, missing, argument :: rest =>
      match missing, Word.ofArgument argument with
      | true, .name => do
          readArguments level (← given.setInput argument.toList) false rest
      | true, _ => .error .usage
      | false, .name => do
          readArguments level (← given.addNames level [argument]) false rest
      | false, .endOfOptions => given.addNames level rest
      | false, .long characters => do
          let (next, waits) ← readLong level given characters
          readArguments level next waits rest
      | false, .short characters => do
          let (next, waits) ← readShort level given characters
          readArguments level next waits rest

/-- Choices for compiling a file. -/
structure CompileChoices where
  path : String
  setPrimaryKey : Bool
  allowNull : Bool
  strict : Bool
  pretty : Bool
  deriving DecidableEq

/-- A command. -/
inductive Command
  | compile (choices : CompileChoices)
  | normalize (names : List String)
  deriving DecidableEq

/-- The compile command of its arguments.  The input is required. -/
def compileCommand (arguments : List String) : Except Stop Command := do
  let given ← readArguments .compile .none false arguments
  match given.input with
  | none => .error .usage
  | some path =>
      .ok (.compile
        { path
          setPrimaryKey := !given.has .noPrimaryKey
          allowNull := given.has .allowNull
          strict := given.has .strict
          pretty := given.has .pretty })

/-- The normalize command of its arguments.  A name is required. -/
def normalizeCommand (arguments : List String) : Except Stop Command := do
  let given ← readArguments .normalize .none false arguments
  if given.names.isEmpty then .error .usage else .ok (.normalize given.names)

/-- The outcome of asking for help on a command. -/
def helpStop (arguments : List String) : Stop :=
  match arguments with
  | [] => .help
  | [topic] =>
      if ["compile", "normalize", "help"].contains topic then .help
      else .usage
  | _ => .usage

/-- Read the options of the program up to the name of a command, and then the
arguments of the command. -/
def readProgram : Given → List String → Except Stop Command
  | _, [] => .error .usage
  | given, argument :: rest =>
      match Word.ofArgument argument with
      | .endOfOptions => .error .usage
      | .long characters => do
          let (next, _) ← readLong .program given characters
          readProgram next rest
      | .short characters => do
          let (next, _) ← readShort .program given characters
          readProgram next rest
      | .name =>
          match argument with
          | "compile" => compileCommand rest
          | "normalize" => normalizeCommand rest
          | "help" => .error (helpStop rest)
          | _ => .error .usage

/-- The command of the arguments. -/
def Command.ofArguments (arguments : List String) : Except Stop Command :=
  readProgram .none arguments

end CommandLine
end TerseSchema
