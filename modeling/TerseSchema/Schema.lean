import TerseSchema.Column.Record

/-!
# Schemas

A schema stores columns under their logical names, in the order in which the
names first came in.
-/

namespace TerseSchema

/-- Columns under their logical names, in order. -/
structure Schema where
  columns : OrderedMap Column

namespace Schema

/-- The schema without columns. -/
def empty : Schema := ⟨OrderedMap.empty⟩

/-- The logical names in order. -/
def names (schema : Schema) : List String :=
  schema.columns.keys

/-- The column of a name. -/
def get? (schema : Schema) (name : String) : Option Column :=
  schema.columns.get? name

/-- Whether a name has a column. -/
def contains (schema : Schema) (name : String) : Bool :=
  schema.columns.contains name

/-- Number of columns. -/
def size (schema : Schema) : Nat :=
  schema.columns.size

/-- Store a column under a name.  A repeated name keeps its place and gets the
new column. -/
def insert (schema : Schema) (name : String) (column : Column) : Schema :=
  ⟨schema.columns.insert name column⟩

/-- The schema of named columns, inserted one after the other. -/
def ofList (columns : List (String × Column)) : Schema :=
  ⟨OrderedMap.ofList columns⟩

/-- The named columns in order. -/
def toList (schema : Schema) : List (String × Column) :=
  schema.columns.entries

/-- The first column flagged as primary key, with its name. -/
def primaryKey? (schema : Schema) : Option (String × Column) :=
  schema.toList.find? fun entry => entry.2.isPrimaryKey

/-- The JSON object of a schema. -/
def toJson (schema : Schema) : Json :=
  .ofMap (schema.columns.mapValues Column.toJson)

/-- The named columns of members that are all objects. -/
def columnsOf? : List (String × Json) → Option (List (String × Column))
  | [] => some []
  | (name, value) :: rest => do
      let column ← Column.ofJson? value
      let columns ← columnsOf? rest
      some ((name, column) :: columns)

/-- Read a schema back from an object of objects. -/
def ofJson? (value : Json) : Option Schema := do
  let members ← value.members?
  let columns ← columnsOf? members.entries
  some (ofList columns)

/-- Equality in which neither the order of columns nor that of options
counts. -/
def same (first second : Schema) : Bool :=
  first.columns.same Column.same second.columns

end Schema
end TerseSchema
