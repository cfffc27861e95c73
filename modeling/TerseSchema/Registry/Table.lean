import TerseSchema.Compilation.Basic

/-!
# Tables

A table is configured by its name, its columns and compile options.  The
columns are descriptors to be compiled or records that are written out.  A
module holds the configuration of a table, if it has one, beside other values.
-/

namespace TerseSchema

/-- The columns of a table. -/
inductive TableColumns
  | shorthand (descriptors : List Descriptor)
  | structured (schema : Schema)

namespace TableColumns

/-- The record of a column that is written out.  A value that is no object
gives a column without any property. -/
def recordOf (value : Json) : Column :=
  (Column.ofJson? value).getD .empty

/-- Read columns: an object holds records under their names, and any other
value holds descriptors. -/
def ofJson : Json → TableColumns
  | .object members =>
      .structured ⟨(OrderedMap.ofList members).mapValues recordOf⟩
  | other => .shorthand (Descriptor.listOfJson other)

/-- The schema of columns.  Only descriptors are compiled. -/
def resolve (options : CompileOptions) : TableColumns → Schema
  | .shorthand descriptors => compile options descriptors
  | .structured schema => schema

end TableColumns

/-- The configuration of a table. -/
structure TableConfig where
  table : String
  columns : TableColumns
  options : CompileOptions

namespace TableConfig

/-- Why a value is not the configuration of a table. -/
inductive Error
  | notArray
  | noParts
  | nameNotText (value : Json)
  | invalidOptions (table : String)

/-- The wording of an error that has one. -/
def Error.message? : Error → Option String
  | .notArray => none
  | .noParts => some "table config is empty"
  | .nameNotText value =>
      some s!"table name must be a string, got {value.render}"
  | .invalidOptions table => some s!"invalid options for table {table}"

/-- The options that follow the columns, if there are any. -/
def optionsOf? : List Json → Option CompileOptions
  | [] => some .standard
  | .null :: _ => some .standard
  | value :: _ => CompileOptions.ofJson? value

/-- Read a configuration from an array of name, columns and options, of which
only the name is required. -/
def ofJson : Json → Except Error TableConfig
  | .array [] => .error .noParts
  | .array (.string table :: rest) =>
      match optionsOf? (rest.drop 1) with
      | some options =>
          .ok ⟨table, .ofJson (rest.headD (.array [])), options⟩
      | none => .error (.invalidOptions table)
  | .array (other :: _) => .error (.nameNotText other)
  | _ => .error .notArray

/-- The configuration of a table with descriptors. -/
def shorthand (table : String) (descriptors : List Descriptor)
    (options : CompileOptions) : TableConfig :=
  ⟨table, .shorthand descriptors, options⟩

/-- The schema of a table. -/
def schema (config : TableConfig) : Schema :=
  config.columns.resolve config.options

end TableConfig

/-- A module: the configuration of a table, if it has one, and the attributes
of its model. -/
structure TableModule where
  config : Option TableConfig
  attributes : OrderedMap Json

namespace TableModule

/-- Read a module from an object whose member for the configuration may be
missing or null. -/
def ofJson? (value : Json) : Option TableModule := do
  let members ← value.members?
  let attributes := members.filterKeys (· != "config")
  match members.get? "config" with
  | none => some ⟨none, attributes⟩
  | some .null => some ⟨none, attributes⟩
  | some config =>
      match TableConfig.ofJson config with
      | .ok parsed => some ⟨some parsed, attributes⟩
      | .error _ => none

end TableModule

/-- The modules of one database. -/
structure DatabaseModules where
  database : String
  modules : List TableModule

namespace DatabaseModules

/-- Read the items of an array of modules. -/
def modulesOf? (value : Json) : Option (List TableModule) := do
  (← value.items?).mapM TableModule.ofJson?

/-- Read the modules of a database from an object, in which other keys do not
count, or from an array with the database and the modules in order. -/
def ofJson? : Json → Option DatabaseModules
  | .object members => do
      let map := OrderedMap.ofList members
      let database ← (← map.get? "database").text?
      let modules ←
        match map.get? "modules" with
        | none => some []
        | some value => modulesOf? value
      some ⟨database, modules⟩
  | .array [database] => do
      some ⟨← database.text?, []⟩
  | .array [database, modules] => do
      some ⟨← database.text?, ← modulesOf? modules⟩
  | _ => none

end DatabaseModules
end TerseSchema
