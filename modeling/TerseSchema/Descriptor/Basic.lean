import TerseSchema.Json.Value
import TerseSchema.Text.Blank

/-!
# Descriptors

A descriptor describes one column tersely.  It is a list of slots, or the same
slots as one text with commas between them.
-/

namespace TerseSchema

/-- A terse description of one column. -/
inductive Descriptor
  | inline (text : String)
  | slots (values : List Json)

namespace Descriptor

/-- Split characters at each comma.  The result is never empty. -/
def splitCommas : List Char → List (List Char)
  | [] => [[]]
  | character :: rest =>
      if character = ',' then [] :: splitCommas rest
      else
        match splitCommas rest with
        | [] => [[character]]
        | segment :: segments => (character :: segment) :: segments

/-- The segments of an inline text, without the blanks around them. -/
def segments (text : String) : List String :=
  (splitCommas text.toList).map fun segment =>
    String.ofList (Text.trimCharacters segment)

/-- The slots of a descriptor. -/
def values : Descriptor → List Json
  | .inline text => (segments text).map Json.string
  | .slots values => values

/-- The descriptor of a value: a text is read inline, an array gives the
slots, and any other value is the only slot. -/
def ofJson : Json → Descriptor
  | .string text => .inline text
  | .array values => .slots values
  | other => .slots [other]

/-- The JSON value of a descriptor. -/
def toJson : Descriptor → Json
  | .inline text => .string text
  | .slots values => .array values

/-- The descriptors of a value: one for each item of an array, or one for any
other value. -/
def listOfJson : Json → List Descriptor
  | .array items => items.map ofJson
  | other => [ofJson other]

end Descriptor
end TerseSchema
