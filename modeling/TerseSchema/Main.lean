import TerseSchema.CommandLine.Outcome

/-!
# The program

Reads the arguments and the input file, and writes the outcome.
-/

namespace TerseSchema
namespace CommandLine

/-- The bytes of a file, unless it cannot be read. -/
def readBytes (path : String) : IO (Option ByteArray) := do
  try
    return some (← IO.FS.readBinFile path)
  catch _ => return none

/-- The bytes of the file that a command reads, if it reads one. -/
def readInput (arguments : List String) : IO (Option ByteArray) :=
  match Command.ofArguments arguments with
  | .ok (.compile choices) => readBytes choices.path
  | _ => return none

end CommandLine
end TerseSchema

open TerseSchema CommandLine in
/-- Run the program with the arguments of the command line. -/
def main (arguments : List String) : IO UInt32 := do
  let contents ← readInput arguments
  let outcome := run (fun _ => contents) arguments
  for warning in outcome.warnings do
    IO.eprintln s!"warning: {warning.message}"
  IO.print outcome.output
  if let some error := outcome.error then
    IO.eprintln s!"Error: {error.message}"
  if outcome.code = 2 then
    IO.eprint usageText
  return outcome.code.toUInt32
