import TerseSchema.Registry.Database
import TerseSchema.Registry.Table

/-!
# Registry

A registry knows the configured databases, the open ones, and the models that
were defined on them.  Models are looked up by their qualified names, and by
their bare table names too if the registry is told to keep those.
-/

namespace TerseSchema

/-- A table bound to a database. -/
structure Model where
  database : String
  table : String
  columns : Schema
  attributes : OrderedMap Json

namespace Model

/-- The name of a table together with its database. -/
def qualify (database table : String) : String :=
  database ++ "." ++ table

/-- The name of a model together with its database. -/
def qualifiedName (model : Model) : String :=
  qualify model.database model.table

/-- The value of an attribute. -/
def attribute? (model : Model) (key : String) : Option Json :=
  model.attributes.get? key

/-- The JSON object of a model.  Times of change are kept, and the table name
is used as it is. -/
def toJson (model : Model) : Json :=
  .object [("database", .string model.database),
    ("tableName", .string model.table),
    ("columns", model.columns.toJson),
    ("attributes", .ofMap model.attributes),
    ("timestamps", .bool true),
    ("freezeTableName", .bool true)]

end Model

/-- Options of a registry. -/
structure RegistryOptions where
  keepBareNames : Bool
  deriving DecidableEq

namespace RegistryOptions

/-- The options that hold if none are given. -/
def standard : RegistryOptions := ⟨false⟩

/-- Read options from an object, in which other keys do not count, or from an
array with the one option. -/
def ofJson? : Json → Option RegistryOptions
  | .object members => do
      let keepBareNames ←
        Json.flag? (.ofList members) "saveTableWithNoDB" standard.keepBareNames
      some ⟨keepBareNames⟩
  | .array [] => some standard
  | .array [keepBareNames] => do
      some ⟨← keepBareNames.bool?⟩
  | _ => none

/-- The JSON object of options. -/
def toJson (options : RegistryOptions) : Json :=
  .object [("saveTableWithNoDB", .bool options.keepBareNames)]

end RegistryOptions

/-- The configured databases, the open databases and the models. -/
structure Registry where
  options : RegistryOptions
  configs : OrderedMap DatabaseConfig
  databases : OrderedMap Database
  models : OrderedMap Model

namespace Registry

/-- Why an operation of a registry failed. -/
inductive Error
  | databaseNotInitialized (database : String)
  | duplicateTable (table : String)
  | duplicateModel (table : String)
  | modelNotFound (model : String)
  deriving DecidableEq

/-- The wording of an error. -/
def Error.message : Error → String
  | .databaseNotInitialized database => s!"db: {database} not init!"
  | .duplicateTable table => s!"table: {table} already registered!"
  | .duplicateModel table => s!"model {table} has been already registered!"
  | .modelNotFound model => s!"model: {model} does not exist"

/-- The registry without databases and models. -/
def new (options : RegistryOptions) : Registry :=
  ⟨options, .empty, .empty, .empty⟩

/-- Store the configuration of a database in place of an earlier one. -/
def configure (registry : Registry) (config : DatabaseConfig) : Registry :=
  { registry with configs := registry.configs.insert config.name config }

/-- Open a configured database.  An open database stays as it is. -/
def openDatabase (registry : Registry) (name : String) :
    Except Error (Registry × Database) :=
  match registry.databases.get? name with
  | some database => .ok (registry, database)
  | none =>
      match registry.configs.get? name with
      | none => .error (.databaseNotInitialized name)
      | some config =>
          let database := Database.ofConfig config
          .ok ({ registry with
            databases := registry.databases.insert name database }, database)

/-- Index a model under its qualified name, and before that under its bare
name if those are kept. -/
def index (registry : Registry) (model : Model) : OrderedMap Model :=
  let models :=
    if registry.options.keepBareNames then
      registry.models.insert model.table model
    else registry.models
  models.insert model.qualifiedName model

/-- Define a table on an open database under names that are still free. -/
def define (registry : Registry) (name : String) (config : TableConfig)
    (attributes : OrderedMap Json) : Except Error (Registry × Model) :=
  match registry.databases.get? name with
  | none => .error (.databaseNotInitialized name)
  | some database =>
      let qualified := Model.qualify name config.table
      if registry.models.contains qualified then
        .error (.duplicateTable qualified)
      else if registry.options.keepBareNames &&
          registry.models.contains config.table then
        .error (.duplicateModel config.table)
      else
        let model : Model := ⟨name, config.table, config.schema, attributes⟩
        .ok ({ registry with
          databases :=
            registry.databases.insert name (database.addTable config.table)
          models := registry.index model }, model)

/-- Define the table of a module.  A module without one is passed over. -/
def loadModule (registry : Registry) (database : String)
    (tableModule : TableModule) : Except Error (Registry × Option Model) :=
  match tableModule.config with
  | none => .ok (registry, none)
  | some config => do
      let (defined, model) ←
        registry.define database config tableModule.attributes
      .ok (defined, some model)

/-- Open a database and define the tables of its modules. -/
def loadGroup (registry : Registry) (group : DatabaseModules) :
    Except Error Registry := do
  let (opened, _) ← registry.openDatabase group.database
  group.modules.foldlM
    (fun loaded tableModule => do
      let (next, _) ← loaded.loadModule group.database tableModule
      .ok next)
    opened

/-- The registry of configurations and the modules of their databases. -/
def init (options : RegistryOptions) (configs : List DatabaseConfig)
    (groups : List DatabaseModules) : Except Error Registry :=
  groups.foldlM loadGroup (configs.foldl configure (new options))

/-- The open database of a name. -/
def database? (registry : Registry) (name : String) : Option Database :=
  registry.databases.get? name

/-- The model of a lookup name. -/
def model (registry : Registry) (name : String) : Except Error Model :=
  match registry.models.get? name with
  | some found => .ok found
  | none => .error (.modelNotFound name)

end Registry
end TerseSchema
