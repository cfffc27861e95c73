import TerseSchema.Compilation.Options
import TerseSchema.Compilation.Warning
import TerseSchema.Descriptor.Basic
import TerseSchema.Descriptor.Slot
import TerseSchema.Schema
import TerseSchema.StorageName

/-!
# Compiling descriptors

Each descriptor compiles to a column and its name.  The column depends on the
descriptor, on the options, and on whether the descriptor is the first one.
-/

namespace TerseSchema

/-- What one descriptor compiles to. -/
structure CompiledColumn where
  name : String
  column : Column
  warnings : List Warning

namespace CompiledColumn

/-- The column before its slots are read.  The primary key allows null. -/
def initial (options : CompileOptions) (index : Nat) : Column :=
  let isKey := options.setPrimaryKey && index == 0
  { Column.empty with
    primaryKey := if isKey then some true else none
    allowNull := if isKey || options.allowNull then some true else none }

/-- The name and the storage field that the first slot gives. -/
def nameAndField : NameSlot → String × Option String
  | .identifier name => (name, StorageName.storageField name)
  | .withField name field => (name, field)
  | .missing => ("", none)

/-- The warnings about the type of a named column. -/
def typeWarnings (name : String) : TypeSlot → List Warning
  | .keyword written =>
      let unresolved :=
        if (ColumnType.ofKeyword? written.keyword).isNone &&
            !written.isBoolean then
          [Warning.unresolvedType name written.keyword]
        else []
      let nonNumeric :=
        match written.size with
        | some (.raw text) => [Warning.nonNumericSize name text]
        | _ => []
      unresolved ++ nonNumeric
  | _ => []

/-- Set the type that the second slot gives.  A plain identifier type comes
with a fresh identifier for each row. -/
def withType (column : Column) : TypeSlot → Column
  | .keyword written =>
      match TypeSpec.ofKeyword written with
      | .plain .uuid =>
          { column with
            columnType := some (.plain .uuid)
            defaultValue := some .freshUuid }
      | spec => { column with columnType := some spec }
  | .direct value => { column with columnType := some (.direct value) }
  | .absent => column

/-- Set a default value, or leave an object in its place to the options. -/
def withDefault (column : Column) (candidate : Option Json)
    (cursor : Cursor) : Column × Cursor :=
  match candidate.map DefaultSlot.classify with
  | some (.options value) => (column, cursor.requeue value)
  | some (.literal value) =>
      ({ column with defaultValue := some (.literal value) }, cursor)
  | none => (column, cursor)

/-- Read the third slot, and after a flag the fourth one. -/
def readDefault (typeSlot : TypeSlot) (column : Column) (cursor : Cursor) :
    Column × Cursor :=
  match cursor.pop with
  | (none, rest) => (column, rest)
  | (some value, rest) =>
      match NullDefaultSlot.classify typeSlot value with
      | .booleanDefault stated => withDefault column (some (.bool stated)) rest
      | .defaultLiteral literal => withDefault column (some literal) rest
      | .nullFlag allowed =>
          let (candidate, following) := rest.pop
          withDefault { column with allowNull := some allowed } candidate
            following

/-- Items under the decimal texts of their places. -/
def indexedOptions (items : List Json) : OrderedMap Json :=
  .ofList (items.mapIdx fun place item => (place.repr, item))

/-- The options in the last slot that is read.  Only an object or an array
gives any. -/
def optionsOf : Option Json → OrderedMap Json
  | some (.object members) => .ofList members
  | some (.array items) => indexedOptions items
  | _ => .empty

/-- The name that options give to a column in place of another one. -/
def rename (name : String) (options : OrderedMap Json) : String :=
  match options.get? "name" with
  | some value => if value.isNull then name else value.keyText
  | none => name

/-- Compile the descriptor at a place. -/
def ofDescriptor (options : CompileOptions) (index : Nat)
    (descriptor : Descriptor) : CompiledColumn :=
  let (first, afterName) := Cursor.pop ⟨descriptor.values⟩
  let (name, field) := nameAndField (NameSlot.classify first)
  let (second, afterType) := afterName.pop
  let typeSlot := (second.map TypeSlot.classify).getD .absent
  let typed := withType { initial options index with field } typeSlot
  let (defaulted, last) := readDefault typeSlot typed afterType
  let extra := optionsOf last.pop.1
  let finalName := rename name extra
  { name := finalName
    column := defaulted.merge extra
    warnings :=
      typeWarnings name typeSlot ++
        if finalName = "" then [.emptyName index] else [] }

end CompiledColumn

/-- A schema and the warnings about its descriptors. -/
structure Compilation where
  schema : Schema
  warnings : List Warning

namespace Compilation

/-- What the descriptors compile to, in order. -/
def columns (options : CompileOptions) (descriptors : List Descriptor) :
    List CompiledColumn :=
  descriptors.mapIdx (CompiledColumn.ofDescriptor options)

/-- Compile descriptors and collect the warnings in their order. -/
def run (options : CompileOptions) (descriptors : List Descriptor) :
    Compilation :=
  let compiled := columns options descriptors
  { schema := .ofList (compiled.map fun each => (each.name, each.column))
    warnings := compiled.flatMap (·.warnings) }

end Compilation

/-- The schema of descriptors. -/
def compile (options : CompileOptions) (descriptors : List Descriptor) :
    Schema :=
  (Compilation.run options descriptors).schema

/-- The schema of descriptors, or the first warning. -/
def compileStrict (options : CompileOptions) (descriptors : List Descriptor) :
    Except Warning Schema :=
  let compilation := Compilation.run options descriptors
  match compilation.warnings with
  | [] => .ok compilation.schema
  | warning :: _ => .error warning

end TerseSchema
