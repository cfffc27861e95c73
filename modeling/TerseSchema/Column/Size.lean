import TerseSchema.Text.Blank

/-!
# Sizes

The size of a column type is a length or a text that names none.  A length is
positive and fits in 64 bits.

There are two readers.  The lenient one takes a number at the start of a text
and ignores what follows; the exact one takes a text that is a number as a
whole.  A text that a reader cannot take as a length is kept as it is.
-/

namespace TerseSchema

/-- A positive number of at most 64 bits. -/
structure Length where
  value : Nat
  positive : 0 < value
  bounded : value < UInt64.size
  deriving DecidableEq

namespace Length

/-- The length of a number in range. -/
def ofNat? (value : Nat) : Option Length :=
  if range : 0 < value ∧ value < UInt64.size then
    some ⟨value, range.1, range.2⟩
  else none

/-- The decimal digits of a length. -/
def text (length : Length) : String :=
  length.value.repr

@[simp] theorem ofNat?_value (length : Length) :
    ofNat? length.value = some length :=
  dif_pos ⟨length.positive, length.bounded⟩

/-- A number is taken as a length exactly if it is the value of one. -/
theorem ofNat?_eq_some_iff (value : Nat) (length : Length) :
    ofNat? value = some length ↔ length.value = value := by
  constructor
  · intro taken
    unfold ofNat? at taken
    split at taken
    · simp only [Option.some.injEq] at taken
      exact taken ▸ rfl
    · contradiction
  · intro equal
    exact equal ▸ ofNat?_value length

/-- The characters after one plus sign, if there is one. -/
def skipPlus : List Char → List Char
  | '+' :: rest => rest
  | characters => characters

/-- The length at the start of a text: blanks, at most one plus sign, and the
longest run of digits that follows. -/
def atStart? (characters : List Char) : Option Length :=
  let unsigned := skipPlus (Text.trimStart characters)
  ofNat? (Nat.ofDigitChars 10 (unsigned.takeWhile Char.isDigit) 0)

/-- The length of a text that consists of at most one plus sign and digits. -/
def exactly? (characters : List Char) : Option Length :=
  let unsigned := skipPlus characters
  if unsigned.all Char.isDigit then ofNat? (Nat.ofDigitChars 10 unsigned 0)
  else none

end Length

/-- The size of a column type. -/
inductive Size
  | length (value : Length)
  | raw (text : String)
  deriving DecidableEq

namespace Size

/-- The text of a size. -/
def text : Size → String
  | .length value => value.text
  | .raw text => text

/-- The size of a text whose leading number counts. -/
def lenient (text : String) : Size :=
  match Length.atStart? text.toList with
  | some value => .length value
  | none => .raw text

/-- The size of a text that has to be a number as a whole. -/
def exact (text : String) : Size :=
  match Length.exactly? text.toList with
  | some value => .length value
  | none => .raw text

end Size
end TerseSchema
