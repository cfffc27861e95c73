/-!
# Blanks

A blank is a character with the White_Space property.  Trimming takes away the
blanks at both ends of a text and keeps those inside.
-/

namespace TerseSchema
namespace Text

/-- The code points of blanks, as closed ranges in increasing order. -/
def blankRanges : List (Nat × Nat) :=
  [(0x0009, 0x000D), (0x0020, 0x0020), (0x0085, 0x0085), (0x00A0, 0x00A0),
   (0x1680, 0x1680), (0x2000, 0x200A), (0x2028, 0x2029), (0x202F, 0x202F),
   (0x205F, 0x205F), (0x3000, 0x3000)]

/-- Whether a character is a blank. -/
def isBlank (character : Char) : Bool :=
  blankRanges.any fun range =>
    range.1 ≤ character.toNat && character.toNat ≤ range.2

/-- The characters after the leading blanks. -/
def trimStart (characters : List Char) : List Char :=
  characters.dropWhile isBlank

/-- The characters without the blanks at both ends. -/
def trimCharacters (characters : List Char) : List Char :=
  (trimStart (trimStart characters).reverse).reverse

/-- The text without the blanks at both ends. -/
def trim (text : String) : String :=
  String.ofList (trimCharacters text.toList)

end Text
end TerseSchema
