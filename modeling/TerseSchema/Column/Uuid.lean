/-!
# Random identifiers

A version 4 identifier has 122 random bits, a fixed version and a fixed
variant.  It is written as five groups of lower-case hexadecimal digits.
-/

namespace TerseSchema

/-- The random bits of a version 4 identifier. -/
structure Uuid where
  bits : BitVec 122
  deriving DecidableEq

namespace Uuid

/-- The lowest hexadecimal digits of a number, at a given width. -/
def hexDigits (width number : Nat) : List Char :=
  (List.range width).reverse.map fun place =>
    ((number >>> (4 * place)) % 16).digitChar

/-- The groups of digits, from the highest random bits to the lowest ones. -/
def groups (identifier : Uuid) : List (List Char) :=
  let bits := identifier.bits.toNat
  [hexDigits 8 (bits >>> 90),
   hexDigits 4 (bits >>> 74),
   '4' :: hexDigits 3 (bits >>> 62),
   hexDigits 4 ((1 <<< 15) + (bits >>> 48) % (1 <<< 14)),
   hexDigits 12 bits]

/-- The written form of an identifier. -/
def text (identifier : Uuid) : String :=
  String.ofList (['-'].intercalate identifier.groups)

/-- Whether a character is a lower-case hexadecimal digit. -/
def isHexDigit (character : Char) : Bool :=
  character.isDigit || ('a' ≤ character && character ≤ 'f')

/-- Whether characters are a given number of hexadecimal digits. -/
def isGroup (width : Nat) (characters : List Char) : Bool :=
  characters.length == width && characters.all isHexDigit

/-- Whether characters are the written form of a version 4 identifier. -/
def isWritten (characters : List Char) : Bool :=
  match characters.splitOnP (· == '-') with
  | [first, second, '4' :: third, variant :: fourth, fifth] =>
      isGroup 8 first && isGroup 4 second && isGroup 3 third &&
        ['8', '9', 'a', 'b'].contains variant && isGroup 3 fourth &&
        isGroup 12 fifth
  | _ => false

end Uuid
end TerseSchema
