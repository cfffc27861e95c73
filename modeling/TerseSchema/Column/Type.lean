import TerseSchema.Column.Size
import TerseSchema.Json.Printer

/-!
# Column types

A column type is one of fourteen abstract types, plain or with a size, or a
keyword that names none of them, or any value that the author gave instead.

Thirteen of the abstract types have a short keyword.  The date type has none;
it is written by its name.
-/

namespace TerseSchema

/-- An abstract column type. -/
inductive ColumnType
  | string
  | binaryString
  | text
  | caselessText
  | searchVector
  | integer
  | bigInteger
  | real
  | double
  | decimal
  | float
  | date
  | boolean
  | uuid
  deriving DecidableEq

namespace ColumnType

/-- All abstract types. -/
def all : List ColumnType :=
  [.string, .binaryString, .text, .caselessText, .searchVector, .integer,
   .bigInteger, .real, .double, .decimal, .float, .date, .boolean, .uuid]

/-- The name of a type in compiled schemas. -/
def name : ColumnType → String
  | .string => "STRING"
  | .binaryString => "STRING.BINARY"
  | .text => "TEXT"
  | .caselessText => "CITEXT"
  | .searchVector => "TSVECTOR"
  | .integer => "INTEGER"
  | .bigInteger => "BIGINT"
  | .real => "REAL"
  | .double => "DOUBLE"
  | .decimal => "DECIMAL"
  | .float => "FLOAT"
  | .date => "DATE"
  | .boolean => "BOOLEAN"
  | .uuid => "UUID"

/-- The short keyword of a type. -/
def keyword? : ColumnType → Option String
  | .string => some "s"
  | .binaryString => some "sb"
  | .text => some "t"
  | .caselessText => some "ct"
  | .searchVector => some "ts"
  | .integer => some "i"
  | .bigInteger => some "bi"
  | .real => some "r"
  | .double => some "d"
  | .decimal => some "de"
  | .float => some "f"
  | .date => none
  | .boolean => some "b"
  | .uuid => some "u"

/-- The type of a name. -/
def ofName? (name : String) : Option ColumnType :=
  all.find? fun columnType => columnType.name = name

/-- The type of a keyword. -/
def ofKeyword? (keyword : String) : Option ColumnType :=
  all.find? fun columnType => columnType.keyword? = some keyword

/-- Every type is in the list of all types. -/
theorem mem_all (columnType : ColumnType) : columnType ∈ all := by
  cases columnType <;> decide

@[simp] theorem ofName?_name (columnType : ColumnType) :
    ofName? columnType.name = some columnType := by
  cases columnType <;> decide

/-- A name stands for a type exactly if it is the name of that type. -/
theorem ofName?_eq_some_iff (name : String) (columnType : ColumnType) :
    ofName? name = some columnType ↔ columnType.name = name := by
  constructor
  · intro found
    simpa using List.find?_some found
  · intro equal
    exact equal ▸ ofName?_name columnType

end ColumnType

/-- A keyword and its size as written in a descriptor. -/
structure TypeKeyword where
  keyword : String
  size : Option Size
  deriving DecidableEq

namespace TypeKeyword

/-- Whether a character separates a keyword from its size. -/
def isSeparator (character : Char) : Bool :=
  character == '='

/-- Split a text at its first equals sign; a second one ends the size. -/
def parse (text : String) : TypeKeyword :=
  let characters := text.toList
  let size :=
    match characters.dropWhile fun character => !isSeparator character with
    | [] => none
    | _ :: rest =>
        some (Size.lenient
          (String.ofList (rest.takeWhile fun character =>
            !isSeparator character)))
  ⟨String.ofList (characters.takeWhile fun character =>
    !isSeparator character), size⟩

/-- The keyword of a Boolean column whose third slot is its default value. -/
def booleanKeyword : String := "Boolean"

/-- Whether the keyword is the one of Boolean columns, with or without a
size. -/
def namesBoolean (written : TypeKeyword) : Bool :=
  written.keyword == booleanKeyword

/-- Whether the keyword is the one of Boolean columns, without a size. -/
def isBoolean (written : TypeKeyword) : Bool :=
  written.namesBoolean && written.size.isNone

end TypeKeyword

/-- The type of a column. -/
inductive TypeSpec
  | plain (base : ColumnType)
  | sized (base : ColumnType) (size : Size)
  | unresolved (keyword : String) (size : Option Size)
  | direct (value : Json)

namespace TypeSpec

/-- The type that a keyword stands for. -/
def ofKeyword (written : TypeKeyword) : TypeSpec :=
  match ColumnType.ofKeyword? written.keyword, written.size with
  | some base, none => .plain base
  | some base, some size => .sized base size
  | none, size => .unresolved written.keyword size

/-- The abstract type, if there is one. -/
def columnType? : TypeSpec → Option ColumnType
  | .plain base => some base
  | .sized base _ => some base
  | _ => none

/-- The size, if there is one. -/
def size? : TypeSpec → Option Size
  | .sized _ size => some size
  | .unresolved _ size => size
  | _ => none

/-- A name with a size in parentheses. -/
def withSize (name : String) (size : Size) : String :=
  name ++ "(" ++ size.text ++ ")"

/-- The text of a type. -/
def text : TypeSpec → String
  | .plain base => base.name
  | .sized base size => withSize base.name size
  | .unresolved keyword none => keyword
  | .unresolved keyword (some size) => withSize keyword size
  | .direct value => value.keyText

/-- The JSON value of a type: its text, except that a value given by the
author stands for itself. -/
def toJson : TypeSpec → Json
  | .direct value => value
  | other => .string other.text

/-- Split a text that ends in a closing parenthesis at its first opening
one. -/
def splitSize? (characters : List Char) : Option (List Char × List Char) :=
  match characters.getLast? with
  | some ')' =>
      let inner := characters.dropLast
      match inner.dropWhile (· != '(') with
      | [] => none
      | _ :: size => some (inner.takeWhile (· != '('), size)
  | _ => none

/-- The sized type that a text spells out. -/
def ofSizedText? (text : String) : Option TypeSpec := do
  let (name, size) ← splitSize? text.toList
  let base ← ColumnType.ofName? (String.ofList name)
  some (.sized base (Size.exact (String.ofList size)))

/-- Read a type back.  A text that spells out an abstract type stands for it,
and anything else for itself. -/
def ofJson : Json → TypeSpec
  | .string text =>
      match ColumnType.ofName? text with
      | some base => .plain base
      | none => (ofSizedText? text).getD (.direct (.string text))
  | other => .direct other

end TypeSpec
end TerseSchema
