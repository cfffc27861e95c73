import TerseSchema.Column.Uuid
import TerseSchema.Json.Value

/-!
# Default values

The default value of a column is a literal value, stored as it was given, or
the marker of a fresh identifier for each row.
-/

namespace TerseSchema

/-- The default value of a column. -/
inductive DefaultValue
  | literal (value : Json)
  | freshUuid

namespace DefaultValue

/-- The text that marks a fresh identifier. -/
def marker : String := "UUIDV4"

/-- The JSON value of a default value. -/
def toJson : DefaultValue → Json
  | .literal value => value
  | .freshUuid => .string marker

/-- Read a default value back.  The text of the marker stands for it. -/
def ofJson : Json → DefaultValue
  | .string text =>
      if text = marker then .freshUuid else .literal (.string text)
  | other => .literal other

/-- The value that a new row receives, given the identifier drawn for it. -/
def materialize (drawn : Uuid) : DefaultValue → Json
  | .literal value => value
  | .freshUuid => .string drawn.text

/-- Equality in which the order of object members does not count. -/
def same : DefaultValue → DefaultValue → Bool
  | .literal first, .literal second => first.same second
  | .freshUuid, .freshUuid => true
  | _, _ => false

end DefaultValue
end TerseSchema
