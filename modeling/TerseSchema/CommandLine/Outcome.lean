import TerseSchema.CommandLine.Arguments
import TerseSchema.Compilation.File

/-!
# Outcomes

The outcome of a command is an exit code, the text for standard output, the
warnings, and the error if the command failed.  The bytes of the input file
are looked up by a function, so a run has no effects of its own.
-/

namespace TerseSchema
namespace CommandLine

/-- The name and version of the program. -/
def versionText : String := "quick-schema 0.1.0"

/-- How to call the program, line by line. -/
def usageLines : List String :=
  ["Usage: quick-schema [-v] [-h] [-V] COMMAND",
   "",
   "Commands:",
   "  compile    Compile a JSON descriptor list into a column schema",
   "  normalize  Print the storage name of each column name",
   "",
   "Options of compile:",
   "  -i, --input FILE      Path of the descriptor file",
   "      --no-primary-key  Do not make the first column the primary key",
   "      --allow-null      Let the other columns allow null",
   "      --strict          Fail on what would only be a warning",
   "  -p, --pretty          Indent the output"]

/-- How to call the program. -/
def usageText : String :=
  String.join (usageLines.map (· ++ "\n"))

/-- The result of a run. -/
structure Outcome where
  code : Nat
  output : String
  warnings : List Warning
  error : Option FileError

namespace Outcome

/-- The outcome of arguments that are not those of a command. -/
def ofStop : Stop → Outcome
  | .usage => ⟨2, "", [], none⟩
  | .help => ⟨0, usageText, [], none⟩
  | .version => ⟨0, versionText ++ "\n", [], none⟩

/-- The outcome of compiling the bytes of a file, if there is one. -/
def ofCompile (choices : CompileChoices) (contents : Option ByteArray) :
    Outcome :=
  let options : CompileOptions := ⟨choices.setPrimaryKey, choices.allowNull⟩
  match DescriptorFile.descriptors choices.path contents with
  | .error error => ⟨1, "", [], some error⟩
  | .ok descriptors =>
      let warnings := (Compilation.run options descriptors).warnings
      match DescriptorFile.schemaOf options choices.strict descriptors with
      | .error error => ⟨1, "", warnings, some error⟩
      | .ok schema =>
          let value := schema.toJson
          let text :=
            if choices.pretty then value.renderIndented else value.render
          ⟨0, text ++ "\n", warnings, none⟩

/-- The line of a column name and its storage name. -/
def normalizeLine (name : String) : String :=
  name ++ "\t" ++ StorageName.normalize name ++ "\n"

/-- The outcome of a command. -/
def ofCommand (lookUp : String → Option ByteArray) : Command → Outcome
  | .compile choices => ofCompile choices (lookUp choices.path)
  | .normalize names => ⟨0, String.join (names.map normalizeLine), [], none⟩

end Outcome

/-- The outcome of the program with the given arguments. -/
def run (lookUp : String → Option ByteArray) (arguments : List String) :
    Outcome :=
  match Command.ofArguments arguments with
  | .error stop => Outcome.ofStop stop
  | .ok command => Outcome.ofCommand lookUp command

end CommandLine
end TerseSchema
