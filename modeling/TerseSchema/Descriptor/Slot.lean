import TerseSchema.Column.Type

/-!
# Slots

The meaning of a slot depends on its place.  The first one names the column,
the second one gives its type, the third one says whether null is allowed or
gives a default value, the fourth one gives a default value after a third slot
that did not, and the last one gives further options.

A cursor hands out the slots from left to right and takes one back if it turns
out to belong to the next place.
-/

namespace TerseSchema

/-- The slots that are left. -/
structure Cursor where
  slots : List Json

namespace Cursor

/-- Take the next slot, if there is one. -/
def pop : Cursor → Option Json × Cursor
  | ⟨[]⟩ => (none, ⟨[]⟩)
  | ⟨slot :: rest⟩ => (some slot, ⟨rest⟩)

/-- Put a slot back in front. -/
def requeue (cursor : Cursor) (slot : Json) : Cursor :=
  ⟨slot :: cursor.slots⟩

/-- Number of slots that are left. -/
def remaining (cursor : Cursor) : Nat :=
  cursor.slots.length

/-- Whether no slot is left. -/
def isEmpty (cursor : Cursor) : Bool :=
  cursor.slots.isEmpty

@[simp] theorem pop_nil : pop ⟨[]⟩ = (none, ⟨[]⟩) := rfl

@[simp] theorem pop_cons (slot : Json) (rest : List Json) :
    pop ⟨slot :: rest⟩ = (some slot, ⟨rest⟩) := rfl

/-- A slot that is put back is the next one. -/
@[simp] theorem pop_requeue (cursor : Cursor) (slot : Json) :
    (cursor.requeue slot).pop = (some slot, cursor) := rfl

end Cursor

/-- The first slot: the name of the column. -/
inductive NameSlot
  | identifier (name : String)
  | withField (name : String) (field : Option String)
  | missing
  deriving DecidableEq

namespace NameSlot

/-- A text is a name.  An array starts with a name, and its second item is the
storage field if it counts as given. -/
def classify : Option Json → NameSlot
  | some (.string name) => .identifier name
  | some (.array (name :: rest)) =>
      .withField name.keyText
        ((rest.head?.filter Json.isTruthy).map Json.keyText)
  | _ => .missing

end NameSlot

/-- The second slot: the type of the column. -/
inductive TypeSlot
  | keyword (written : TypeKeyword)
  | direct (value : Json)
  | absent

namespace TypeSlot

/-- A text is a keyword, any other value that counts as given is a type of its
own. -/
def classify : Json → TypeSlot
  | .string text => .keyword (.parse text)
  | other => if other.isTruthy then .direct other else .absent

/-- Whether the slot holds the keyword of Boolean columns. -/
def namesBoolean : TypeSlot → Bool
  | .keyword written => written.namesBoolean
  | _ => false

end TypeSlot

/-- The third slot: whether null is allowed, or a default value. -/
inductive NullDefaultSlot
  | booleanDefault (value : Bool)
  | nullFlag (allowed : Bool)
  | defaultLiteral (value : Json)

namespace NullDefaultSlot

/-- The Boolean that a value states in words or by itself. -/
def statedBool? : Json → Option Bool
  | .bool value => some value
  | .string "true" => some true
  | .string "false" => some false
  | _ => none

/-- The permission of null that a value states. -/
def statedFlag? : Json → Option Bool
  | .string "$t" => some true
  | .string "$f" => some false
  | other => statedBool? other

/-- After the keyword of Boolean columns a stated Boolean is the default
value.  Otherwise a stated flag permits or forbids null.  Anything else is a
default value. -/
def classify (typeSlot : TypeSlot) (value : Json) : NullDefaultSlot :=
  let booleanDefault :=
    if typeSlot.namesBoolean then statedBool? value else none
  match booleanDefault, statedFlag? value with
  | some stated, _ => .booleanDefault stated
  | none, some allowed => .nullFlag allowed
  | none, none => .defaultLiteral value

end NullDefaultSlot

/-- A default value, or the options in its place. -/
inductive DefaultSlot
  | options (value : Json)
  | literal (value : Json)

namespace DefaultSlot

/-- An object in the place of a default value holds the options. -/
def classify (value : Json) : DefaultSlot :=
  if value.isObject then .options value else .literal value

end DefaultSlot
end TerseSchema
