import TerseSchema.Text.Lowercase

/-!
# Storage names

A storage name is the lower-case spelling of a column name with an underscore
in front of each word after the first one.  A word starts at an upper-case
letter that follows a lower-case letter, and at the last letter of a run of
upper-case letters that a lower-case letter follows.

The letters that decide where words start are the ASCII letters other than q,
so no word starts at a q or right after one.
-/

namespace TerseSchema
namespace StorageName

/-- Whether a character is an upper-case letter that can start a word. -/
def isUpperLetter (character : Char) : Bool :=
  character.isUpper && character != 'Q'

/-- Whether a character is a lower-case letter that can end or continue a
word. -/
def isLowerLetter (character : Char) : Bool :=
  character.isLower && character != 'q'

/-- Whether a word starts at a character between its neighbours. -/
def startsWord (previous : Option Char) (character : Char)
    (next : Option Char) : Bool :=
  isUpperLetter character &&
    (previous.any isLowerLetter ||
      (previous.any isUpperLetter && next.any isLowerLetter))

/-- The spelling of the characters that follow a given one. -/
def spell : (previous : Option Char) → List Char → List Char
  | _, [] => []
  | previous, character :: rest =>
      (if startsWord previous character rest.head? then ['_'] else []) ++
        Text.lowercase character ++ spell (some character) rest

@[simp] theorem spell_nil (previous : Option Char) :
    spell previous [] = [] := rfl

@[simp] theorem spell_cons (previous : Option Char) (character : Char)
    (rest : List Char) :
    spell previous (character :: rest) =
      (if startsWord previous character rest.head? then ['_'] else []) ++
        Text.lowercase character ++ spell (some character) rest := rfl

/-- The storage name of a column name. -/
def normalize (name : String) : String :=
  String.ofList (spell none name.toList)

/-- The storage name of a column name if the two differ. -/
def storageField (name : String) : Option String :=
  let stored := normalize name
  if stored = name then none else some stored

end StorageName
end TerseSchema
