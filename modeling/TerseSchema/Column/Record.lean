import TerseSchema.Column.Default
import TerseSchema.Column.Type

/-!
# Columns

A column has five typed properties, each of which may be unset, and further
options kept as they were given.  Its logical name is not part of it: a schema
stores columns under their names.

An object merges into a column key by key.  A value of the right shape sets
the property of its key and null clears it; a value of another shape clears
the property and is kept among the options.  Every other key is an option.
-/

namespace TerseSchema

/-- The record of one column. -/
structure Column where
  field : Option String
  columnType : Option TypeSpec
  allowNull : Option Bool
  defaultValue : Option DefaultValue
  primaryKey : Option Bool
  options : OrderedMap Json

namespace Column

/-- The column without any property or option. -/
def empty : Column :=
  ⟨none, none, none, none, none, OrderedMap.empty⟩

/-- Whether a column is flagged as primary key. -/
def isPrimaryKey (column : Column) : Bool :=
  column.primaryKey == some true

/-- Drop the option of a key whose value was taken, or keep the value as an
option. -/
def settle (options : OrderedMap Json) (key : String) (value : Json)
    (taken : Bool) : OrderedMap Json :=
  if taken then options.erase key else options.insert key value

/-- Merge the value of one key.  The logical name is left out. -/
def assign (column : Column) (key : String) (value : Json) : Column :=
  match key with
  | "name" => column
  | "field" =>
      { column with
        field := value.text?
        options := settle column.options key value
          (value.isNull || value.text?.isSome) }
  | "type" =>
      { column with
        columnType := if value.isNull then none else some (.ofJson value)
        options := settle column.options key value true }
  | "allowNull" =>
      { column with
        allowNull := value.bool?
        options := settle column.options key value
          (value.isNull || value.bool?.isSome) }
  | "defaultValue" =>
      { column with
        defaultValue := some (.ofJson value)
        options := settle column.options key value true }
  | "primaryKey" =>
      { column with
        primaryKey := value.bool?
        options := settle column.options key value
          (value.isNull || value.bool?.isSome) }
  | _ => { column with options := settle column.options key value false }

/-- Merge an object, key by key in order. -/
def merge (column : Column) (object : OrderedMap Json) : Column :=
  object.entries.foldl
    (fun merged entry => merged.assign entry.1 entry.2) column

/-- The column that an object describes. -/
def ofObject (object : OrderedMap Json) : Column :=
  empty.merge object

/-- The typed properties that are set, under their keys. -/
def properties (column : Column) : List (String × Json) :=
  [("field", column.field.map Json.string),
   ("type", column.columnType.map TypeSpec.toJson),
   ("allowNull", column.allowNull.map Json.bool),
   ("defaultValue", column.defaultValue.map DefaultValue.toJson),
   ("primaryKey", column.primaryKey.map Json.bool)].filterMap
    fun property => property.2.map fun value => (property.1, value)

/-- The JSON object of a column: the typed properties and then the options. -/
def toJson (column : Column) : Json :=
  .object (column.properties ++ column.options.entries)

/-- Read a column back from an object. -/
def ofJson? (value : Json) : Option Column :=
  value.members?.map ofObject

end Column

/-- Equality of types in which the order of object members does not count. -/
def TypeSpec.same : TypeSpec → TypeSpec → Bool
  | .plain first, .plain second => first == second
  | .sized firstBase firstSize, .sized secondBase secondSize =>
      firstBase == secondBase && firstSize == secondSize
  | .unresolved firstKeyword firstSize, .unresolved secondKeyword secondSize =>
      firstKeyword == secondKeyword && firstSize == secondSize
  | .direct first, .direct second => first.same second
  | _, _ => false

namespace Column

/-- Equality of values that may be unset. -/
def sameOptional {α : Type} (related : α → α → Bool) :
    Option α → Option α → Bool
  | none, none => true
  | some first, some second => related first second
  | _, _ => false

/-- Equality in which the order of options does not count. -/
def same (first second : Column) : Bool :=
  first.field == second.field &&
    sameOptional TypeSpec.same first.columnType second.columnType &&
    first.allowNull == second.allowNull &&
    sameOptional DefaultValue.same first.defaultValue second.defaultValue &&
    first.primaryKey == second.primaryKey &&
    first.options.same Json.same second.options

end Column
end TerseSchema
