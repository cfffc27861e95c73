import TerseSchema.Json.Value

/-!
# Databases

A logical database is configured under a name before it is opened.  An open
database keeps the settings it was opened with and lists its tables in the
order in which they were defined.
-/

namespace TerseSchema

/-- Connection settings of one logical database. -/
structure DatabaseConfig where
  name : String
  url : String
  settings : OrderedMap Json

namespace DatabaseConfig

/-- Whether a key is one of the settings beside the name and the address. -/
def isSetting (key : String) : Bool :=
  key != "name" && key != "url"

/-- Read a configuration from an object with a name and, if there is one, an
address. -/
def ofJson? (value : Json) : Option DatabaseConfig := do
  let members ← value.members?
  let name ← (← members.get? "name").text?
  let url ←
    match members.get? "url" with
    | none => some ""
    | some address => address.text?
  some ⟨name, url, members.filterKeys isSetting⟩

/-- The JSON object of a configuration: name, address and the settings. -/
def toJson (config : DatabaseConfig) : Json :=
  .object (("name", .string config.name) :: ("url", .string config.url) ::
    config.settings.entries)

end DatabaseConfig

/-- An open database. -/
structure Database where
  name : String
  url : String
  settings : OrderedMap Json
  tables : List String

namespace Database

/-- The database of a configuration, without tables. -/
def ofConfig (config : DatabaseConfig) : Database :=
  ⟨config.name, config.url, config.settings, []⟩

/-- Add a table at the end. -/
def addTable (database : Database) (table : String) : Database :=
  { database with tables := database.tables ++ [table] }

end Database
end TerseSchema
