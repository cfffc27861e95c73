import TerseSchema.Json.Value
import TerseSchema.Number.Decimal

/-!
# JSON text

The compact text of a value has no blanks.  The indented text has each item
and member on a line of its own, two blanks deeper than its container; empty
containers stay on one line.
-/

namespace TerseSchema

namespace Binary64

/-- Decimal exponents from this one on are written positionally. -/
def leastPositionalExponent : Int := -5

/-- Decimal exponents up to this one are written positionally. -/
def greatestPositionalExponent : Int := 15

/-- The shortest decimal text with a point or an exponent. -/
def text (number : Binary64) : List Char :=
  let sign := if number.negative then ['-'] else []
  if number.isZero then sign ++ ['0', '.', '0']
  else
    let decimal := Decimal.shortest number.code
    let isPositional :=
      leastPositionalExponent ≤ decimal.exponent ∧
        decimal.exponent ≤ greatestPositionalExponent
    sign ++
      if isPositional then Decimal.positional decimal.digits decimal.exponent
      else Decimal.scientific decimal.digits decimal.exponent

end Binary64

/-- The text of a number. -/
def JsonNumber.text : JsonNumber → List Char
  | .integer value => (toString value).toList
  | .float value => value.text

namespace Json

/-- A character inside a quoted text. -/
def escape (character : Char) : List Char :=
  match character with
  | '"' => ['\\', '"']
  | '\\' => ['\\', '\\']
  | '\x08' => ['\\', 'b']
  | '\x0c' => ['\\', 'f']
  | '\n' => ['\\', 'n']
  | '\r' => ['\\', 'r']
  | '\t' => ['\\', 't']
  | other =>
      if other.toNat < 0x20 then
        ['\\', 'u', '0', '0', (other.toNat / 16).digitChar,
          (other.toNat % 16).digitChar]
      else [other]

/-- A text between quotation marks. -/
def quote (text : String) : List Char :=
  '"' :: (text.toList.flatMap escape ++ ['"'])

/-! ## Compact text -/

mutual

/-- The characters of the compact text. -/
def characters : Json → List Char
  | .null => ['n', 'u', 'l', 'l']
  | .bool true => ['t', 'r', 'u', 'e']
  | .bool false => ['f', 'a', 'l', 's', 'e']
  | .number value => value.text
  | .string text => quote text
  | .array [] => ['[', ']']
  | .array (item :: rest) => '[' :: (item.characters ++ restOfItems rest)
  | .object [] => ['{', '}']
  | .object ((key, value) :: rest) =>
      '{' :: (quote key ++ ':' :: (value.characters ++ restOfMembers rest))

/-- Further items of an array and its end. -/
def restOfItems : List Json → List Char
  | [] => [']']
  | item :: rest => ',' :: (item.characters ++ restOfItems rest)

/-- Further members of an object and its end. -/
def restOfMembers : List (String × Json) → List Char
  | [] => ['}']
  | (key, value) :: rest =>
      ',' :: (quote key ++ ':' :: (value.characters ++ restOfMembers rest))

end

/-- The compact text. -/
def render (value : Json) : String :=
  String.ofList value.characters

/-! ## Indented text -/

/-- The start of a line at a given depth. -/
def newLine (depth : Nat) : List Char :=
  '\n' :: List.replicate (2 * depth) ' '

mutual

/-- The characters of the indented text of a value at a given depth. -/
def indentedCharacters (depth : Nat) : Json → List Char
  | .array (item :: rest) =>
      '[' :: (newLine (depth + 1) ++ indentedCharacters (depth + 1) item ++
        restOfIndentedItems depth rest)
  | .object ((key, value) :: rest) =>
      '{' :: (newLine (depth + 1) ++ quote key ++ ':' :: ' ' ::
        (indentedCharacters (depth + 1) value ++
          restOfIndentedMembers depth rest))
  | other => other.characters

/-- Further items of an array at a given depth and its end. -/
def restOfIndentedItems (depth : Nat) : List Json → List Char
  | [] => newLine depth ++ [']']
  | item :: rest =>
      ',' :: (newLine (depth + 1) ++ indentedCharacters (depth + 1) item ++
        restOfIndentedItems depth rest)

/-- Further members of an object at a given depth and its end. -/
def restOfIndentedMembers (depth : Nat) : List (String × Json) → List Char
  | [] => newLine depth ++ ['}']
  | (key, value) :: rest =>
      ',' :: (newLine (depth + 1) ++ quote key ++ ':' :: ' ' ::
        (indentedCharacters (depth + 1) value ++
          restOfIndentedMembers depth rest))

end

/-- The indented text. -/
def renderIndented (value : Json) : String :=
  String.ofList (indentedCharacters 0 value)

/-- The text of a value that serves as a name: a string stands for itself, any
other value for its compact text. -/
def keyText : Json → String
  | .string text => text
  | other => other.render

end Json
end TerseSchema
