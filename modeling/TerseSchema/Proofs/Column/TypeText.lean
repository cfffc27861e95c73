import TerseSchema.Column.Type
import Mathlib.Data.List.TakeWhile

/-!
# Reading types back from their texts

The two readers of sizes agree on every text that the exact one takes as a
length, so a size that either of them gives is read back from its own text.
No name of an abstract type has a parenthesis in it, hence the first opening
one in the text of a sized type is the one in front of the size, whatever the
size contains.

The main statement is `TypeSpec.ofJson_toJson_iff`: among the types that a
column can have, exactly the unresolved keywords are not read back.
-/

namespace TerseSchema

/-! ## Digits -/

theorem Text.range_of_isDigit {character : Char}
    (digit : character.isDigit = true) :
    48 ≤ character.toNat ∧ character.toNat ≤ 57 := by
  simpa [Char.isDigit, UInt32.le_iff_toNat_le] using digit

theorem Text.isBlank_of_isDigit {character : Char}
    (digit : character.isDigit = true) : Text.isBlank character = false := by
  have range := Text.range_of_isDigit digit
  simp only [Text.isBlank, Text.blankRanges, List.any_cons, List.any_nil,
    Bool.or_false, Bool.or_eq_false_iff, Bool.and_eq_false_iff,
    decide_eq_false_iff_not]
  omega

namespace Length

/-- Nothing but a plus sign is skipped. -/
theorem skipPlus_eq_self {characters : List Char}
    (noPlus : characters.head? ≠ some '+') :
    skipPlus characters = characters := by
  unfold skipPlus
  split
  · exact absurd rfl noPlus
  · rfl

/-- There is no plus sign in front of digits. -/
theorem skipPlus_of_isDigit {characters : List Char}
    (digits : characters.all Char.isDigit = true) :
    skipPlus characters = characters := by
  apply skipPlus_eq_self
  intro plus
  have digit := List.all_eq_true.mp digits '+' (List.mem_of_head? plus)
  contradiction

/-- The text of a length consists of digits. -/
theorem isDigit_text (length : Length) :
    length.text.toList.all Char.isDigit = true := by
  rw [List.all_eq_true, text, Nat.toList_repr]
  intro character member
  exact Nat.isDigit_of_mem_toDigits (by decide) (by decide) member

/-- A text is a length as a whole exactly if it consists of digits with that
value, behind at most one plus sign. -/
theorem exactly?_eq_some_iff_digits (characters : List Char)
    (length : Length) :
    exactly? characters = some length ↔
      (skipPlus characters).all Char.isDigit = true ∧
        length.value = Nat.ofDigitChars 10 (skipPlus characters) 0 := by
  unfold exactly?
  dsimp only
  split
  · rename_i digits
    rw [ofNat?_eq_some_iff]
    exact ⟨fun value => ⟨digits, value⟩, And.right⟩
  · rename_i noDigits
    simp [noDigits]

/-- A length is read back from its text. -/
@[simp] theorem exactly?_text (length : Length) :
    exactly? length.text.toList = some length := by
  have digits := isDigit_text length
  rw [exactly?_eq_some_iff_digits, skipPlus_of_isDigit digits]
  refine ⟨digits, ?_⟩
  rw [text, Nat.toList_repr, Nat.ofDigitChars_ten_toDigits]

/-- A text that is a length as a whole has no leading blanks. -/
theorem trimStart_of_isDigit {characters : List Char}
    (digits : (skipPlus characters).all Char.isDigit = true) :
    Text.trimStart characters = characters := by
  cases characters with
  | nil => rfl
  | cons first rest =>
      have notBlank : Text.isBlank first = false := by
        by_cases plus : first = '+'
        · subst plus
          decide
        · have unsigned : skipPlus (first :: rest) = first :: rest :=
            skipPlus_eq_self (by simpa using plus)
          rw [unsigned, List.all_cons, Bool.and_eq_true] at digits
          exact Text.isBlank_of_isDigit digits.1
      simp [Text.trimStart, notBlank]

/-- What the exact reader takes as a length, the lenient one takes as the
same. -/
theorem atStart?_of_exactly? {characters : List Char} {length : Length}
    (read : exactly? characters = some length) :
    atStart? characters = some length := by
  obtain ⟨digits, value⟩ := (exactly?_eq_some_iff_digits _ _).mp read
  have whole : (skipPlus characters).takeWhile Char.isDigit =
      skipPlus characters := by
    rw [List.takeWhile_eq_self_iff]
    exact List.all_eq_true.mp digits
  unfold atStart?
  rw [trimStart_of_isDigit digits]
  dsimp only
  rw [whole]
  exact (ofNat?_eq_some_iff _ _).mpr value

end Length

/-! ## Sizes -/

namespace Size

/-- Whether a size is read back from its text. -/
def IsWritten (size : Size) : Prop :=
  exact size.text = size

theorem isWritten_length (value : Length) : (length value).IsWritten := by
  simp [IsWritten, exact, text]

theorem isWritten_raw_iff (text : String) :
    (raw text).IsWritten ↔ Length.exactly? text.toList = none := by
  unfold IsWritten exact
  cases read : Length.exactly? text.toList <;> simp [Size.text, read]

theorem isWritten_exact (text : String) : (exact text).IsWritten := by
  unfold exact
  split
  · exact isWritten_length _
  · rename_i unread
    exact (isWritten_raw_iff text).mpr unread

theorem isWritten_lenient (text : String) : (lenient text).IsWritten := by
  unfold lenient
  split
  · exact isWritten_length _
  · rename_i unread
    rw [isWritten_raw_iff, Option.eq_none_iff_forall_ne_some]
    intro length read
    rw [Length.atStart?_of_exactly? read] at unread
    contradiction

end Size

/-- Every size in a keyword is read back from its text. -/
theorem TypeKeyword.isWritten_size_parse {text : String} {size : Size}
    (written : (TypeKeyword.parse text).size = some size) :
    size.IsWritten := by
  simp only [TypeKeyword.parse] at written
  split at written
  · contradiction
  · rw [Option.some.injEq] at written
    exact written ▸ Size.isWritten_lenient _

/-- A text has no size exactly if it has no equals sign. -/
theorem TypeKeyword.size_parse_eq_none_iff (text : String) :
    (TypeKeyword.parse text).size = none ↔
      ∀ character ∈ text.toList, character ≠ '=' := by
  have unsized : (TypeKeyword.parse text).size = none ↔
      text.toList.dropWhile (!TypeKeyword.isSeparator ·) = [] := by
    simp only [TypeKeyword.parse]
    split <;> simp_all
  rw [unsized, List.dropWhile_eq_nil_iff]
  simp [TypeKeyword.isSeparator]

/-- A text without a size is its own keyword. -/
theorem TypeKeyword.keyword_parse_of_unsized {text : String}
    (unsized : (TypeKeyword.parse text).size = none) :
    (TypeKeyword.parse text).keyword = text := by
  have whole : text.toList.takeWhile (!TypeKeyword.isSeparator ·) =
      text.toList := by
    rw [List.takeWhile_eq_self_iff]
    simpa [TypeKeyword.isSeparator] using
      (TypeKeyword.size_parse_eq_none_iff text).mp unsized
  simp only [TypeKeyword.parse, whole, String.ofList_toList]

/-! ## Types -/

namespace ColumnType

/-- No name of an abstract type has a parenthesis in it. -/
theorem parenthesis_not_mem_name (columnType : ColumnType) :
    '(' ∉ columnType.name.toList ∧ ')' ∉ columnType.name.toList := by
  cases columnType <;> decide

end ColumnType

namespace TypeSpec

/-- The characters of a name with a size. -/
theorem toList_withSize (name : String) (size : Size) :
    (withSize name size).toList =
      name.toList ++ '(' :: (size.text.toList ++ [')']) := by
  simp [withSize]

/-- A text with a size is split at the opening parenthesis in front of it. -/
theorem splitSize?_of_parenthesis_not_mem {name size : List Char}
    (plain : '(' ∉ name) :
    splitSize? (name ++ '(' :: (size ++ [')'])) = some (name, size) := by
  have other : ∀ character ∈ name, (character != '(') = true := by
    intro character member
    exact bne_iff_ne.mpr fun equal => plain (equal ▸ member)
  have last : (name ++ '(' :: (size ++ [')'])).getLast? = some ')' := by
    rw [← List.cons_append, ← List.append_assoc, List.getLast?_concat]
  have inner : (name ++ '(' :: (size ++ [')'])).dropLast =
      name ++ '(' :: size := by
    rw [← List.cons_append, ← List.append_assoc, List.dropLast_concat]
  unfold splitSize?
  rw [last]
  dsimp only
  rw [inner, List.dropWhile_append_of_pos other,
    List.takeWhile_append_of_pos other]
  simp

/-- No abstract type is called by a name with a size. -/
theorem ofName?_withSize (name : String) (size : Size) :
    ColumnType.ofName? (withSize name size) = none := by
  rw [Option.eq_none_iff_forall_ne_some]
  intro columnType found
  have named := (ColumnType.ofName?_eq_some_iff _ _).mp found
  have absent := (ColumnType.parenthesis_not_mem_name columnType).2
  rw [named, toList_withSize] at absent
  simp at absent

/-- The text of a sized type is split into its name and the text of its
size. -/
theorem splitSize?_withSize_name (base : ColumnType) (size : Size) :
    splitSize? (withSize base.name size).toList =
      some (base.name.toList, size.text.toList) := by
  rw [toList_withSize]
  exact splitSize?_of_parenthesis_not_mem
    (ColumnType.parenthesis_not_mem_name base).1

/-- A sized type is read back with the size that the exact reader finds. -/
theorem ofJson_toJson_sized (base : ColumnType) (size : Size) :
    ofJson (sized base size).toJson = sized base (Size.exact size.text) := by
  have read : ofSizedText? (withSize base.name size) =
      some (sized base (Size.exact size.text)) := by
    simp [ofSizedText?, splitSize?_withSize_name]
  simp [toJson, text, ofJson, ofName?_withSize, read]

/-- Whether a type is a keyword that names no abstract type. -/
def isUnresolved : TypeSpec → Bool
  | .unresolved _ _ => true
  | _ => false

/-- A type that a column can have: its size is read back from its text, and a
value of the author's own is not null and spells out no abstract type. -/
def IsSettled : TypeSpec → Prop
  | .plain _ => True
  | .sized _ size => size.IsWritten
  | .unresolved _ _ => True
  | .direct value => value.isNull = false ∧ ofJson value = .direct value

/-- A text that spells out a sized type has a size that is read back. -/
theorem eq_sized_of_ofSizedText? {text : String} {spec : TypeSpec}
    (read : ofSizedText? text = some spec) :
    ∃ base size, spec = sized base size ∧ size.IsWritten := by
  simp only [ofSizedText?, Option.bind_eq_bind, Option.bind_eq_some_iff,
    Option.some.injEq] at read
  obtain ⟨_, _, base, _, rfl⟩ := read
  exact ⟨base, _, rfl, Size.isWritten_exact _⟩

/-- Reading a text gives a plain type, a sized one or the text itself. -/
theorem ofJson_string (text : String) :
    (∃ base, ofJson (.string text) = plain base) ∨
      (∃ base size, ofJson (.string text) = sized base size ∧
        size.IsWritten) ∨
      ofJson (.string text) = direct (.string text) := by
  cases named : ColumnType.ofName? text with
  | some base => exact Or.inl ⟨base, by simp [ofJson, named]⟩
  | none =>
      cases read : ofSizedText? text with
      | none => exact Or.inr (Or.inr (by simp [ofJson, named, read]))
      | some spec =>
          obtain ⟨base, size, rfl, written⟩ := eq_sized_of_ofSizedText? read
          exact Or.inr (Or.inl
            ⟨base, size, by simp [ofJson, named, read], written⟩)

/-- No value is read as an unresolved keyword. -/
theorem isUnresolved_ofJson (value : Json) :
    (ofJson value).isUnresolved = false := by
  cases value with
  | string text =>
      rcases ofJson_string text with
        ⟨base, equal⟩ | ⟨base, size, equal, -⟩ | equal <;>
        rw [equal] <;> rfl
  | null => rfl
  | bool _ => rfl
  | number _ => rfl
  | array _ => rfl
  | object _ => rfl

/-- What is read from a value other than null is settled. -/
theorem isSettled_ofJson {value : Json} (given : value.isNull = false) :
    (ofJson value).IsSettled := by
  cases value with
  | string text =>
      rcases ofJson_string text with
        ⟨base, equal⟩ | ⟨base, size, equal, written⟩ | equal <;> rw [equal]
      · trivial
      · exact written
      · exact ⟨rfl, equal⟩
  | null => contradiction
  | bool _ => exact ⟨given, rfl⟩
  | number _ => exact ⟨given, rfl⟩
  | array _ => exact ⟨given, rfl⟩
  | object _ => exact ⟨given, rfl⟩

/-- What a keyword of a descriptor stands for is settled. -/
theorem isSettled_ofKeyword_parse (text : String) :
    (ofKeyword (TypeKeyword.parse text)).IsSettled := by
  unfold ofKeyword
  split
  · trivial
  · rename_i written
    exact TypeKeyword.isWritten_size_parse written
  · trivial

/-- No settled type is written as null. -/
theorem isNull_toJson {spec : TypeSpec} (settled : spec.IsSettled) :
    spec.toJson.isNull = false := by
  cases spec with
  | direct value => exact settled.1
  | plain _ => rfl
  | sized _ _ => rfl
  | unresolved _ _ => rfl

/-- A settled type is read back exactly if it is no unresolved keyword. -/
theorem ofJson_toJson_iff {spec : TypeSpec} (settled : spec.IsSettled) :
    ofJson spec.toJson = spec ↔ spec.isUnresolved = false := by
  constructor
  · intro same
    exact same ▸ isUnresolved_ofJson spec.toJson
  · intro resolved
    cases spec with
    | plain base => simp [toJson, text, ofJson]
    | sized base size =>
        have written : Size.exact size.text = size := settled
        rw [ofJson_toJson_sized, written]
    | unresolved keyword size => contradiction
    | direct value => exact settled.2

end TypeSpec
end TerseSchema
