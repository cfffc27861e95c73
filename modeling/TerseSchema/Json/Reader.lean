import TerseSchema.Json.Value
import TerseSchema.Number.Decimal

/-!
# Reading JSON

The reader takes exactly the JSON grammar: one value with blanks around it,
no comments, no commas at the end of a container, no number with a needless
zero in front.  Containers are nested at most as deep as the caller allows.

Each part of the reader returns what it read and the rest of the text, with
the fact that the rest is shorter; that fact ends the recursion.
-/

namespace TerseSchema
namespace Json
namespace Reader

/-- A strictly shorter text. -/
abbrev Rest (text : List Char) : Type :=
  { rest : List Char // rest.length < text.length }

/-- What was read at the start of a text and what follows it. -/
abbrev Reading (α : Type) (text : List Char) : Type :=
  Option (α × Rest text)

/-- Blanks between the parts of a value. -/
def isBlank (character : Char) : Bool :=
  character == ' ' || character == '\t' || character == '\n' ||
    character == '\r'

/-- The text after its leading blanks. -/
def skipBlanks (text : List Char) : List Char :=
  text.dropWhile isBlank

/-- Skipping blanks makes no text longer. -/
theorem length_skipBlanks_le (text : List Char) :
    (skipBlanks text).length ≤ text.length :=
  (List.dropWhile_sublist isBlank).length_le

/-- What follows the first character after the blanks is shorter. -/
theorem length_lt_of_skipBlanks {text following : List Char}
    {character : Char} (found : skipBlanks text = character :: following) :
    following.length < text.length := by
  have bound := length_skipBlanks_le text
  rw [found, List.length_cons] at bound
  exact bound

/-- The text after a given word. -/
def skipWord : List Char → List Char → Option (List Char)
  | [], text => some text
  | _ :: _, [] => none
  | expected :: word, character :: rest =>
      if character = expected then skipWord word rest else none

/-- Skipping a word makes no text longer. -/
theorem length_skipWord_le (word text rest : List Char)
    (skipped : skipWord word text = some rest) :
    rest.length ≤ text.length := by
  induction word generalizing text with
  | nil =>
      simp only [skipWord, Option.some.injEq] at skipped
      simp [skipped]
  | cons expected word inductionHypothesis =>
      cases text with
      | nil => simp [skipWord] at skipped
      | cons character following =>
          simp only [skipWord] at skipped
          split at skipped
          · exact Nat.le_succ_of_le (inductionHypothesis following skipped)
          · contradiction

/-! ## Texts -/

/-- The value of a hexadecimal digit of either case. -/
def hexDigit? (character : Char) : Option Nat :=
  if character.isDigit then some (character.toNat - '0'.toNat)
  else if 'a' ≤ character ∧ character ≤ 'f' then
    some (character.toNat - 'a'.toNat + 10)
  else if 'A' ≤ character ∧ character ≤ 'F' then
    some (character.toNat - 'A'.toNat + 10)
  else none

/-- The value of four hexadecimal digits. -/
def hexUnit? (first second third fourth : Char) : Option Nat := do
  let a ← hexDigit? first
  let b ← hexDigit? second
  let c ← hexDigit? third
  let d ← hexDigit? fourth
  some (((a * 16 + b) * 16 + c) * 16 + d)

/-- Whether a unit is the first half of a surrogate pair. -/
def isHighSurrogate (unit : Nat) : Bool :=
  0xD800 ≤ unit && unit < 0xDC00

/-- Whether a unit is the second half of a surrogate pair. -/
def isLowSurrogate (unit : Nat) : Bool :=
  0xDC00 ≤ unit && unit < 0xE000

/-- The character of a surrogate pair. -/
def pairedCharacter (high low : Nat) : Char :=
  Char.ofNat (0x10000 + (high - 0xD800) * 0x400 + (low - 0xDC00))

/-- The character named by the letter after a backslash. -/
def shortEscape? (letter : Char) : Option Char :=
  match letter with
  | '"' => some '"'
  | '\\' => some '\\'
  | '/' => some '/'
  | 'b' => some '\x08'
  | 'f' => some '\x0c'
  | 'n' => some '\n'
  | 'r' => some '\r'
  | 't' => some '\t'
  | _ => none

/-- The character of a unit that was read just before a text.  A half of a
surrogate pair without the other half is no character. -/
def completeUnit (unit : Nat) (text : List Char) :
    Option (Char × { rest : List Char // rest.length ≤ text.length }) :=
  if isLowSurrogate unit then none
  else if isHighSurrogate unit then
    match text with
    | '\\' :: 'u' :: a :: b :: c :: d :: rest => do
        let low ← hexUnit? a b c d
        if isLowSurrogate low then
          some (pairedCharacter unit low,
            ⟨rest, by simp only [List.length_cons]; omega⟩)
        else none
    | _ => none
  else some (Char.ofNat unit, ⟨text, Nat.le_refl _⟩)

/-- One character of a quoted text. -/
def readCharacter : (text : List Char) → Reading Char text
  | '\\' :: 'u' :: a :: b :: c :: d :: following => do
      let unit ← hexUnit? a b c d
      let (character, rest) ← completeUnit unit following
      some (character, ⟨rest.val, by
        have bound := rest.property
        simp only [List.length_cons]
        omega⟩)
  | '\\' :: letter :: rest => do
      let character ← shortEscape? letter
      some (character, ⟨rest, by simp only [List.length_cons]; omega⟩)
  | character :: rest =>
      if character.toNat < 0x20 ∨ character = '\\' then none
      else some (character, ⟨rest, by simp⟩)
  | [] => none

/-- The characters of a quoted text up to the closing quotation mark. -/
def readCharacters (text : List Char) : Reading (List Char) text :=
  match text with
  | '"' :: rest => some ([], ⟨rest, by simp⟩)
  | start =>
      match readCharacter start with
      | none => none
      | some (character, following) =>
          match readCharacters following.val with
          | none => none
          | some (characters, rest) =>
              some (character :: characters,
                ⟨rest.val, Nat.lt_trans rest.property following.property⟩)
  termination_by text.length
  decreasing_by exact following.property

/-! ## Numbers -/

/-- Take digits into a coefficient as long as it stays within 64 bits.  The
result is the coefficient and the number of digits left out. -/
def takeDigits (coefficient : Nat) : List Char → Nat × Nat
  | [] => (coefficient, 0)
  | digit :: rest =>
      let longer := Nat.ofDigitChars 10 [digit] coefficient
      if longer < UInt64.size then takeDigits longer rest
      else (coefficient, rest.length + 1)

/-- The parts of a number as written. -/
structure Numeral where
  negative : Bool
  whole : List Char
  fraction : Option (List Char)
  exponent : Option Int

namespace Numeral

/-- The decimal of a numeral without its sign.  Digits of the whole part that
are left out count as powers of ten, and those of the fraction do not count. -/
def decimal (numeral : Numeral) : Decimal :=
  let fraction := numeral.fraction.getD []
  let (wholeTaken, wholeLeft) := takeDigits 0 numeral.whole
  let (taken, fractionLeft) := takeDigits wholeTaken fraction
  let places : Int := fraction.length - fractionLeft
  ⟨taken, wholeLeft - places + numeral.exponent.getD 0⟩

/-- Whether a numeral has neither a fraction nor an exponent. -/
def isWhole (numeral : Numeral) : Bool :=
  numeral.fraction.isNone && numeral.exponent.isNone

/-- The integer of a whole numeral within 64 bits.  Negative zero is none. -/
def integer? (numeral : Numeral) : Option Int :=
  let magnitude := Nat.ofDigitChars 10 numeral.whole 0
  if !numeral.isWhole then none
  else if numeral.negative then
    if 0 < magnitude ∧ magnitude ≤ UInt64.size / 2 then
      some (-(magnitude : Int))
    else none
  else if magnitude < UInt64.size then some magnitude
  else none

/-- The number of a numeral: an integer if there is one, else a binary64 number
unless the magnitude is too large. -/
def value? (numeral : Numeral) : Option JsonNumber :=
  match numeral.integer? with
  | some value => some (.integer value)
  | none =>
      (Binary64.ofCode? numeral.negative numeral.decimal.toCode).map .float

end Numeral

/-- The digits at the start of a text. -/
def leadingDigits (text : List Char) : List Char :=
  text.takeWhile Char.isDigit

/-- The text after its leading digits. -/
def skipDigits (text : List Char) : List Char :=
  text.dropWhile Char.isDigit

/-- Skipping digits makes no text longer. -/
theorem length_skipDigits_le (text : List Char) :
    (skipDigits text).length ≤ text.length :=
  (List.dropWhile_sublist Char.isDigit).length_le

/-- Skipping digits that are there makes a text shorter. -/
theorem length_skipDigits_lt {text : List Char}
    (present : leadingDigits text ≠ []) :
    (skipDigits text).length < text.length := by
  have parts : leadingDigits text ++ skipDigits text = text :=
    List.takeWhile_append_dropWhile
  have positive := List.length_pos_iff.mpr present
  have lengths := congrArg List.length parts
  rw [List.length_append] at lengths
  omega

/-- The whole part of a numeral at the start of a text.  Zero stands alone. -/
def wholeDigits? (text : List Char) : Option (List Char) :=
  match leadingDigits text with
  | [] => none
  | '0' :: _ :: _ => none
  | digits => some digits

/-- The fraction of a numeral, if there is one, and the rest. -/
def readFraction (text : List Char) :
    Option (Option (List Char) × List Char) :=
  match text with
  | '.' :: rest =>
      if leadingDigits rest = [] then none
      else some (some (leadingDigits rest), skipDigits rest)
  | other => some (none, other)

/-- The digits of an exponent and the rest. -/
def readExponentDigits (negative : Bool) (text : List Char) :
    Option (Option Int × List Char) :=
  if leadingDigits text = [] then none
  else
    let magnitude : Int := Nat.ofDigitChars 10 (leadingDigits text) 0
    some (some (if negative then -magnitude else magnitude), skipDigits text)

/-- The exponent of a numeral, if there is one, and the rest. -/
def readExponent (text : List Char) : Option (Option Int × List Char) :=
  match text with
  | letter :: rest =>
      if letter = 'e' ∨ letter = 'E' then
        match rest with
        | '+' :: digits => readExponentDigits false digits
        | '-' :: digits => readExponentDigits true digits
        | digits => readExponentDigits false digits
      else some (none, text)
  | [] => some (none, text)

/-- Reading a fraction makes no text longer. -/
theorem length_readFraction_le {text rest : List Char}
    {fraction : Option (List Char)}
    (found : readFraction text = some (fraction, rest)) :
    rest.length ≤ text.length := by
  unfold readFraction at found
  split at found
  · rename_i following
    split at found
    · contradiction
    · simp only [Option.some.injEq, Prod.mk.injEq] at found
      have bound := length_skipDigits_le following
      rw [← found.2, List.length_cons]
      omega
  · simp only [Option.some.injEq, Prod.mk.injEq] at found
    exact found.2 ▸ Nat.le_refl _

/-- Reading the digits of an exponent makes no text longer. -/
theorem length_readExponentDigits_le {negative : Bool}
    {text rest : List Char} {exponent : Option Int}
    (found : readExponentDigits negative text = some (exponent, rest)) :
    rest.length ≤ text.length := by
  unfold readExponentDigits at found
  split at found
  · contradiction
  · simp only [Option.some.injEq, Prod.mk.injEq] at found
    rw [← found.2]
    exact length_skipDigits_le text

/-- Reading an exponent makes no text longer. -/
theorem length_readExponent_le {text rest : List Char}
    {exponent : Option Int}
    (found : readExponent text = some (exponent, rest)) :
    rest.length ≤ text.length := by
  unfold readExponent at found
  split at found
  · split at found
    · split at found <;>
        have bound := length_readExponentDigits_le found <;>
        simp only [List.length_cons] <;> omega
    · simp only [Option.some.injEq, Prod.mk.injEq] at found
      exact found.2 ▸ Nat.le_refl _
  · simp only [Option.some.injEq, Prod.mk.injEq] at found
    exact found.2 ▸ Nat.le_refl _

/-- A numeral without a sign and what follows it. -/
def readUnsigned (negative : Bool) (text : List Char) :
    Reading Numeral text :=
  match foundWhole : wholeDigits? text with
  | none => none
  | some whole =>
      match foundFraction : readFraction (skipDigits text) with
      | none => none
      | some (fraction, afterFraction) =>
          match foundExponent : readExponent afterFraction with
          | none => none
          | some (exponent, rest) =>
              some (⟨negative, whole, fraction, exponent⟩, ⟨rest, by
                have present : leadingDigits text ≠ [] := by
                  intro absent
                  simp [wholeDigits?, absent] at foundWhole
                have wholeBound := length_skipDigits_lt present
                have fractionBound := length_readFraction_le foundFraction
                have exponentBound := length_readExponent_le foundExponent
                omega⟩)

/-- A number with its sign. -/
def readNumber (text : List Char) : Reading Json text :=
  match text with
  | '-' :: unsigned => do
      let (numeral, rest) ← readUnsigned true unsigned
      let value ← numeral.value?
      some (.number value, ⟨rest.val, Nat.lt_succ_of_lt rest.property⟩)
  | unsigned => do
      let (numeral, rest) ← readUnsigned false unsigned
      let value ← numeral.value?
      some (.number value, rest)

/-! ## Containers -/

/-- Items separated by commas up to the closing bracket. -/
def readItems (readItem : (text : List Char) → Reading Json text)
    (text : List Char) : Reading (List Json) text :=
  match readItem text with
  | none => none
  | some (item, afterItem) =>
      match found : skipBlanks afterItem.val with
      | ']' :: rest =>
          some ([item], ⟨rest,
            Nat.lt_trans (length_lt_of_skipBlanks found) afterItem.property⟩)
      | ',' :: following =>
          have shorter : following.length < text.length :=
            Nat.lt_trans (length_lt_of_skipBlanks found) afterItem.property
          match readItems readItem following with
          | none => none
          | some (items, rest) =>
              some (item :: items,
                ⟨rest.val, Nat.lt_trans rest.property shorter⟩)
      | _ => none
  termination_by text.length

/-- The items of an array after its opening bracket. -/
def readArray (readItem : (text : List Char) → Reading Json text)
    (text : List Char) : Reading (List Json) text :=
  match found : skipBlanks text with
  | ']' :: rest => some ([], ⟨rest, length_lt_of_skipBlanks found⟩)
  | _ => readItems readItem text

/-- A quoted key, a colon and a value. -/
def readMember (readItem : (text : List Char) → Reading Json text)
    (text : List Char) : Reading (String × Json) text :=
  match foundKey : skipBlanks text with
  | '"' :: quoted =>
      match readCharacters quoted with
      | none => none
      | some (key, afterKey) =>
          match foundColon : skipBlanks afterKey.val with
          | ':' :: following =>
              match readItem following with
              | none => none
              | some (value, rest) =>
                  some ((String.ofList key, value), ⟨rest.val,
                    Nat.lt_trans
                      (Nat.lt_trans rest.property
                        (length_lt_of_skipBlanks foundColon))
                      (Nat.lt_trans afterKey.property
                        (length_lt_of_skipBlanks foundKey))⟩)
          | _ => none
  | _ => none

/-- Members separated by commas up to the closing brace. -/
def readMembers (readItem : (text : List Char) → Reading Json text)
    (text : List Char) : Reading (List (String × Json)) text :=
  match readMember readItem text with
  | none => none
  | some (entry, afterEntry) =>
      match found : skipBlanks afterEntry.val with
      | '\x7d' :: rest =>
          some ([entry], ⟨rest,
            Nat.lt_trans (length_lt_of_skipBlanks found) afterEntry.property⟩)
      | ',' :: following =>
          have shorter : following.length < text.length :=
            Nat.lt_trans (length_lt_of_skipBlanks found) afterEntry.property
          match readMembers readItem following with
          | none => none
          | some (entries, rest) =>
              some (entry :: entries,
                ⟨rest.val, Nat.lt_trans rest.property shorter⟩)
      | _ => none
  termination_by text.length

/-- The members of an object after its opening brace.  A repeated key keeps
its first place and its last value. -/
def readObject (readItem : (text : List Char) → Reading Json text)
    (text : List Char) : Reading (List (String × Json)) text :=
  match found : skipBlanks text with
  | '\x7d' :: rest => some ([], ⟨rest, length_lt_of_skipBlanks found⟩)
  | _ => do
      let (members, rest) ← readMembers readItem text
      some ((OrderedMap.ofList members).entries, rest)

/-! ## Values -/

/-- The value of a word whose first letter was read just before a text. -/
def readWord (word : List Char) (value : Json) {letter : Char}
    (text : List Char) : Reading Json (letter :: text) :=
  match found : skipWord word text with
  | some rest =>
      some (value, ⟨rest,
        Nat.lt_succ_of_le (length_skipWord_le word text rest found)⟩)
  | none => none

/-- A value that is a word or a number. -/
def readScalar (text : List Char) : Reading Json text :=
  match text with
  | 'n' :: rest => readWord ['u', 'l', 'l'] .null rest
  | 't' :: rest => readWord ['r', 'u', 'e'] (.bool true) rest
  | 'f' :: rest => readWord ['a', 'l', 's', 'e'] (.bool false) rest
  | other => readNumber other

/-- A value in which containers are nested at most `depth` deep. -/
def readValue : (depth : Nat) → (text : List Char) → Reading Json text
  | depth, text =>
      match found : skipBlanks text with
      | '"' :: quoted => do
          let (characters, rest) ← readCharacters quoted
          some (.string (String.ofList characters), ⟨rest.val,
            Nat.lt_trans rest.property (length_lt_of_skipBlanks found)⟩)
      | '[' :: inside =>
          match depth with
          | 0 => none
          | inner + 1 => do
              let (items, rest) ← readArray (readValue inner) inside
              some (.array items, ⟨rest.val,
                Nat.lt_trans rest.property (length_lt_of_skipBlanks found)⟩)
      | '\x7b' :: inside =>
          match depth with
          | 0 => none
          | inner + 1 => do
              let (members, rest) ← readObject (readValue inner) inside
              some (.object members, ⟨rest.val,
                Nat.lt_trans rest.property (length_lt_of_skipBlanks found)⟩)
      | start => do
          let (value, rest) ← readScalar start
          some (value, ⟨rest.val,
            Nat.lt_of_lt_of_le rest.property
              (found ▸ length_skipBlanks_le text)⟩)

end Reader

/-- Deepest nesting of containers in a text that is read. -/
def depthLimit : Nat := 127

/-- The value of a text, with containers nested at most `depth` deep. -/
def readWithin (depth : Nat) (text : String) : Option Json := do
  let (value, rest) ← Reader.readValue depth text.toList
  if Reader.skipBlanks rest.val = [] then some value else none

/-- The value of a text. -/
def read (text : String) : Option Json :=
  readWithin depthLimit text

end Json
end TerseSchema
