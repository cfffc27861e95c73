import TerseSchema.Number.Binary64
import TerseSchema.OrderedMap

/-!
# JSON values

A JSON value keeps the members of an object in order.  A number is an integer
or a binary64 number; the two kinds stay apart even if their values agree.
-/

namespace TerseSchema

/-- A JSON number. -/
inductive JsonNumber
  | integer (value : Int)
  | float (value : Binary64)
  deriving DecidableEq

namespace JsonNumber

/-- Whether a number has the value zero. -/
def isZero : JsonNumber → Bool
  | .integer value => value == 0
  | .float value => value.isZero

/-- Equality of numbers of one kind. -/
def same : JsonNumber → JsonNumber → Bool
  | .integer first, .integer second => first == second
  | .float first, .float second => first.same second
  | _, _ => false

end JsonNumber

/-- A JSON value. -/
inductive Json
  | null
  | bool (value : Bool)
  | number (value : JsonNumber)
  | string (text : String)
  | array (items : List Json)
  | object (members : List (String × Json))

namespace Json

/-- The text of a string. -/
def text? : Json → Option String
  | .string text => some text
  | _ => none

/-- The value of a Boolean. -/
def bool? : Json → Option Bool
  | .bool value => some value
  | _ => none

/-- The items of an array. -/
def items? : Json → Option (List Json)
  | .array items => some items
  | _ => none

/-- The members of an object. -/
def members? : Json → Option (OrderedMap Json)
  | .object members => some (OrderedMap.ofList members)
  | _ => none

/-- A Boolean among members, or its standard value if it is missing. -/
def flag? (members : OrderedMap Json) (key : String) (standard : Bool) :
    Option Bool :=
  match members.get? key with
  | none => some standard
  | some value => value.bool?

/-- Whether a value is null. -/
def isNull : Json → Bool
  | .null => true
  | _ => false

/-- Whether a value is an object. -/
def isObject : Json → Bool
  | .object _ => true
  | _ => false

/-- Whether a value counts as given: null, false, zero and the empty text do
not, and every array or object does. -/
def isTruthy : Json → Bool
  | .null => false
  | .bool value => value
  | .number value => !value.isZero
  | .string text => !text.isEmpty
  | .array _ => true
  | .object _ => true

/-- The object of an ordered map. -/
def ofMap (members : OrderedMap Json) : Json :=
  .object members.entries

mutual

/-- Equality in which the order of object members does not count. -/
def same : Json → Json → Bool
  | .null, .null => true
  | .bool first, .bool second => first == second
  | .number first, .number second => first.same second
  | .string first, .string second => first == second
  | .array first, .array second => sameItems first second
  | .object first, .object second =>
      first.length == second.length && membersWithin first second
  | _, _ => false

/-- Equality of items at the same places. -/
def sameItems : List Json → List Json → Bool
  | [], [] => true
  | first :: firstRest, second :: secondRest =>
      same first second && sameItems firstRest secondRest
  | _, _ => false

/-- Whether all members occur among others under the same keys. -/
def membersWithin : List (String × Json) → List (String × Json) → Bool
  | [], _ => true
  | (key, value) :: rest, others =>
      (match others.lookup key with
        | some other => same value other
        | none => false) && membersWithin rest others

end

end Json
end TerseSchema
