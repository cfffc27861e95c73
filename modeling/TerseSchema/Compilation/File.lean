import TerseSchema.Compilation.Basic
import TerseSchema.Json.Reader

/-!
# Descriptor files

A descriptor file holds the descriptors of one schema as JSON in UTF-8.
-/

namespace TerseSchema

/-- Why a descriptor file gives no schema. -/
inductive FileError
  | unreadable (path : String)
  | malformed (path : String)
  | rejected (warning : Warning)
  deriving DecidableEq

namespace FileError

/-- The wording of an error. -/
def message : FileError → String
  | .unreadable path => s!"Failed to read descriptor file: {path}"
  | .malformed path => s!"Failed to parse descriptor file: {path}"
  | .rejected warning => warning.rejection

end FileError

namespace DescriptorFile

/-- The descriptors in the bytes of a file, if there is one. -/
def descriptors (path : String) (contents : Option ByteArray) :
    Except FileError (List Descriptor) :=
  match contents.bind String.fromUTF8? with
  | none => .error (.unreadable path)
  | some text =>
      match Json.read text with
      | none => .error (.malformed path)
      | some value => .ok (Descriptor.listOfJson value)

/-- The schema of descriptors, unless a warning counts as an error. -/
def schemaOf (options : CompileOptions) (strict : Bool)
    (descriptors : List Descriptor) : Except FileError Schema :=
  if strict then (compileStrict options descriptors).mapError .rejected
  else .ok (compile options descriptors)

/-- The schema of a file. -/
def compile (path : String) (contents : Option ByteArray)
    (options : CompileOptions) (strict : Bool) : Except FileError Schema := do
  schemaOf options strict (← descriptors path contents)

end DescriptorFile
end TerseSchema
