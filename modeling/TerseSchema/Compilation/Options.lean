import TerseSchema.Json.Value

/-!
# Compile options

The options of one compilation decide whether its first column becomes the
primary key, and whether the other columns allow null unless they say
otherwise.
-/

namespace TerseSchema

/-- Options of one compilation. -/
structure CompileOptions where
  setPrimaryKey : Bool
  allowNull : Bool
  deriving DecidableEq

namespace CompileOptions

/-- The options that hold if none are given. -/
def standard : CompileOptions := ⟨true, false⟩

/-- Read options from an object, in which other keys do not count, or from an
array with the options in order. -/
def ofJson? : Json → Option CompileOptions
  | .object members => do
      let map := OrderedMap.ofList members
      let setPrimaryKey ← Json.flag? map "setPrimaryKey" standard.setPrimaryKey
      let allowNull ← Json.flag? map "allowNull" standard.allowNull
      some ⟨setPrimaryKey, allowNull⟩
  | .array [] => some standard
  | .array [setPrimaryKey] => do
      some ⟨← setPrimaryKey.bool?, standard.allowNull⟩
  | .array [setPrimaryKey, allowNull] => do
      some ⟨← setPrimaryKey.bool?, ← allowNull.bool?⟩
  | _ => none

/-- The JSON object of options, with all of them written. -/
def toJson (options : CompileOptions) : Json :=
  .object [("setPrimaryKey", .bool options.setPrimaryKey),
    ("allowNull", .bool options.allowNull)]

end CompileOptions
end TerseSchema
