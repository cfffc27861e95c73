import TerseSchema.Proofs.Column.ReadBack
import Mathlib.Data.List.Basic

/-!
# Types that change their spelling

Reading the text of a type and writing what was read gives the same text again,
with one exception.  A text such as `STRING(+5)` or `STRING(05)` spells out an
abstract type with a length, and a length is written without a sign and without
zeros in front.

No sized type has such a text, and no keyword with a size of its own.  Only a
keyword that has the parentheses in itself is respelled.
-/

namespace TerseSchema

/-! ## Padded lengths -/

namespace Length

/-- Whether a text has a plus sign or a zero in front. -/
def IsPadded (text : String) : Prop :=
  text.toList.head? = some '+' ∨ text.toList.head? = some '0'

theorem exists_digitChar {character : Char}
    (digit : character.isDigit = true) :
    ∃ value, value < 10 ∧ Nat.digitChar value = character := by
  have range := Text.range_of_isDigit digit
  refine ⟨character.toNat - 48, by omega, Char.toNat_inj.mp ?_⟩
  rw [Nat.toNat_digitChar_of_lt_ten (by omega)]
  omega

/-- Digits that go on from a positive number are kept as they are. -/
theorem toDigits_ofDigitChars {digits : List Char} {start : Nat}
    (positive : 0 < start) (areDigits : digits.all Char.isDigit = true) :
    Nat.toDigits 10 (Nat.ofDigitChars 10 digits start) =
      Nat.toDigits 10 start ++ digits := by
  induction digits generalizing start with
  | nil => simp
  | cons first rest inductionHypothesis =>
      rw [List.all_cons, Bool.and_eq_true] at areDigits
      obtain ⟨value, small, rfl⟩ := exists_digitChar areDigits.1
      rw [Nat.ofDigitChars_cons_digitChar_of_lt_ten small,
        inductionHypothesis (by omega) areDigits.2,
        ← Nat.toDigits_append_toDigits (by decide) positive small,
        Nat.toDigits_of_lt_base small, List.append_assoc]
      rfl

/-- A positive number is written without a zero in front. -/
theorem head?_toDigits {number : Nat} (positive : 0 < number) :
    (Nat.toDigits 10 number).head? ≠ some '0' := by
  induction number using Nat.strong_induction_on with
  | _ number inductionHypothesis =>
      rw [Nat.toDigits_eq_if (by decide)]
      split
      · rename_i small
        intro zero
        have value := congrArg Char.toNat (Option.some.inj zero)
        rw [Nat.toNat_digitChar_of_lt_ten small] at value
        have zeroValue : '0'.toNat = 48 := rfl
        omega
      · have front := inductionHypothesis (number / 10) (by omega) (by omega)
        rw [List.head?_append_of_ne_nil _ Nat.toDigits_ne_nil]
        exact front

/-- The text of a length is not padded. -/
theorem not_isPadded_text (length : Length) : ¬IsPadded length.text := by
  rintro (plus | zero)
  · have digits := List.all_eq_true.mp (isDigit_text length)
    exact absurd (digits '+' (List.mem_of_head? plus)) (by decide)
  · rw [text, Nat.toList_repr] at zero
    exact head?_toDigits length.positive zero

/-- A text that is a length as a whole is the text of that length exactly if it
is not padded. -/
theorem eq_text_iff {digits : String} {length : Length}
    (read : exactly? digits.toList = some length) :
    digits = length.text ↔ ¬IsPadded digits := by
  constructor
  · intro same
    exact same ▸ not_isPadded_text length
  · intro unpadded
    obtain ⟨noPlus, noZero⟩ := not_or.mp unpadded
    have unsigned := skipPlus_eq_self noPlus
    obtain ⟨areDigits, value⟩ := (exactly?_eq_some_iff_digits _ _).mp read
    rw [unsigned] at areDigits value
    apply String.toList_inj.mp
    rw [text, Nat.toList_repr, value]
    cases characters : digits.toList with
    | nil =>
        rw [characters, Nat.ofDigitChars_nil] at value
        exact absurd value length.positive.ne'
    | cons first rest =>
        rw [characters, List.all_cons, Bool.and_eq_true] at areDigits
        rw [characters, List.head?_cons] at noZero
        obtain ⟨start, small, rfl⟩ := exists_digitChar areDigits.1
        have positive : 0 < start := by
          rw [Nat.pos_iff_ne_zero]
          rintro rfl
          exact noZero rfl
        rw [Nat.ofDigitChars_cons_digitChar_of_lt_ten small, Nat.mul_zero,
          Nat.zero_add, toDigits_ofDigitChars positive areDigits.2,
          Nat.toDigits_of_lt_base small]
        rfl

/-- A text that is a length as a whole consists of digits and a plus sign. -/
theorem isDigit_or_plus_of_exactly? {characters : List Char} {length : Length}
    (read : exactly? characters = some length) {character : Char}
    (member : character ∈ characters) :
    character.isDigit = true ∨ character = '+' := by
  obtain ⟨digits, -⟩ := (exactly?_eq_some_iff_digits _ _).mp read
  have unsigned := List.all_eq_true.mp digits
  unfold skipPlus at unsigned
  split at unsigned
  · rcases List.mem_cons.mp member with plus | inside
    · exact Or.inr plus
    · exact Or.inl (unsigned character inside)
  · exact Or.inl (unsigned character member)

end Length

/-! ## Texts of sized types -/

namespace ColumnType

theorem separator_not_mem_name (columnType : ColumnType) :
    '=' ∉ columnType.name.toList := by
  cases columnType <;> decide

theorem parenthesis_not_mem_keyword (columnType : ColumnType) :
    ∀ keyword ∈ columnType.keyword?, '(' ∉ keyword.toList := by
  cases columnType <;> decide

end ColumnType

namespace TypeSpec

/-- What a split text was made of. -/
theorem eq_of_splitSize? {characters name size : List Char}
    (split : splitSize? characters = some (name, size)) :
    characters = name ++ '(' :: (size ++ [')']) := by
  unfold splitSize? at split
  split at split
  · rename_i last
    obtain ⟨inner, rfl⟩ := List.getLast?_eq_some_iff.mp last
    rw [List.dropLast_concat] at split
    dsimp only at split
    split at split
    · contradiction
    · rename_i first rest found
      obtain ⟨rfl, rfl⟩ := Prod.mk.inj (Option.some.inj split)
      have stopped := List.head?_dropWhile_not (· != '(') inner
      rw [found, List.head?_cons] at stopped
      have parenthesis : first = '(' := by simpa using stopped
      calc inner ++ [')']
          = inner.takeWhile (· != '(') ++ first :: rest ++ [')'] := by
            rw [← found, List.takeWhile_append_dropWhile]
        _ = _ := by simp [parenthesis]
  · contradiction

/-- A text spells out a sized type exactly if it is the name of an abstract
type with a size in parentheses. -/
theorem ofSizedText?_eq_some_iff (text : String) (spec : TypeSpec) :
    ofSizedText? text = some spec ↔ ∃ (base : ColumnType) (size : String),
      text = withSize base.name (.raw size) ∧
        spec = sized base (.exact size) := by
  constructor
  · intro read
    simp only [ofSizedText?, Option.bind_eq_bind, Option.bind_eq_some_iff,
      Option.some.injEq] at read
    obtain ⟨⟨name, size⟩, split, base, named, rfl⟩ := read
    refine ⟨base, String.ofList size, ?_, rfl⟩
    apply String.toList_inj.mp
    rw [eq_of_splitSize? split, toList_withSize,
      (ColumnType.ofName?_eq_some_iff _ _).mp named]
    simp [Size.text]
  · rintro ⟨base, size, rfl, rfl⟩
    simp [ofSizedText?, splitSize?_withSize_name, Size.text]

/-- Two sizes of one name have different texts. -/
theorem withSize_inj (name : String) {first second : Size} :
    withSize name first = withSize name second ↔ first.text = second.text := by
  constructor
  · intro same
    have characters := congrArg String.toList same
    rw [toList_withSize, toList_withSize] at characters
    exact String.toList_inj.mp (by simpa using characters)
  · intro same
    rw [withSize, same, withSize]

/-- Whether a text spells out an abstract type with a padded length. -/
def SpellsPaddedLength (text : String) : Prop :=
  ∃ (base : ColumnType) (digits : String),
    text = withSize base.name (.raw digits) ∧
    (Length.exactly? digits.toList).isSome ∧ Length.IsPadded digits

/-- A respelled text is read as a type with the length that it states. -/
theorem ofJson_string_of_spellsPaddedLength {text : String}
    (respelled : SpellsPaddedLength text) :
    ∃ (base : ColumnType) (digits : String) (length : Length),
      text = withSize base.name (.raw digits) ∧
      Length.exactly? digits.toList = some length ∧ digits ≠ length.text ∧
      ofJson (.string text) = sized base (.length length) := by
  obtain ⟨base, digits, rfl, isLength, padded⟩ := respelled
  obtain ⟨length, read⟩ := Option.isSome_iff_exists.mp isLength
  refine ⟨base, digits, length, rfl, read, ?_, ?_⟩
  · intro same
    exact (Length.eq_text_iff read).mp same padded
  · have spelled := (ofSizedText?_eq_some_iff _ _).mpr ⟨base, digits, rfl, rfl⟩
    simp [ofJson, ofName?_withSize, spelled, Size.exact, read]

/-- Any text but a respelled one is written again after it was read. -/
theorem toJson_ofJson_string_iff (text : String) :
    (ofJson (.string text)).toJson = .string text ↔
      ¬SpellsPaddedLength text := by
  constructor
  · intro same respelled
    obtain ⟨base, digits, length, rfl, -, differs, read⟩ :=
      ofJson_string_of_spellsPaddedLength respelled
    rw [read] at same
    have texts := (withSize_inj base.name).mp (Json.string.inj same)
    exact differs texts.symm
  · intro kept
    cases named : ColumnType.ofName? text with
    | some base =>
        have name := (ColumnType.ofName?_eq_some_iff _ _).mp named
        simp [ofJson, named, toJson, TypeSpec.text, name]
    | none =>
        cases read : ofSizedText? text with
        | none => simp [ofJson, named, read, toJson]
        | some spec =>
            obtain ⟨base, digits, rfl, rfl⟩ :=
              (ofSizedText?_eq_some_iff _ _).mp read
            have same : (Size.exact digits).text = digits := by
              unfold Size.exact
              split
              · rename_i length isLength
                refine ((Length.eq_text_iff isLength).mpr ?_).symm
                intro padded
                exact kept ⟨base, digits, rfl, by simp [isLength], padded⟩
              · rfl
            have texts : withSize base.name (.exact digits) =
                withSize base.name (.raw digits) :=
              (withSize_inj base.name).mpr same
            simp [ofJson, named, read, toJson, TypeSpec.text, texts]

/-- If a keyword has a parenthesis in it, the one in front of its size is
split off as a part of the size. -/
theorem parenthesis_mem_of_splitSize? {keyword : String} {size : Size}
    {front back : List Char} (inside : '(' ∈ keyword.toList)
    (split : splitSize? (withSize keyword size).toList = some (front, back)) :
    '(' ∈ back := by
  obtain ⟨name, rest, parts, plain⟩ := List.eq_append_cons_of_mem inside
  have early : splitSize?
      (name ++ '(' :: (rest ++ '(' :: size.text.toList ++ [')'])) =
        some (name, rest ++ '(' :: size.text.toList) :=
    splitSize?_of_parenthesis_not_mem plain
  rw [toList_withSize, parts, List.append_assoc, List.cons_append] at split
  rw [List.append_assoc, List.cons_append, split] at early
  obtain ⟨-, rfl⟩ := Prod.mk.inj (Option.some.inj early)
  simp

/-- A keyword with a size that is read back is not respelled: its size is
written in digits of its own. -/
theorem not_spellsPaddedLength_withSize {keyword : String} {size : Size}
    (written : size.IsWritten) :
    ¬SpellsPaddedLength (withSize keyword size) := by
  rintro ⟨base, digits, same, isLength, padded⟩
  obtain ⟨length, read⟩ := Option.isSome_iff_exists.mp isLength
  have split : splitSize? (withSize keyword size).toList =
      some (base.name.toList, digits.toList) :=
    same ▸ splitSize?_withSize_name base (.raw digits)
  have plain : '(' ∉ keyword.toList := fun inside =>
    absurd (Length.isDigit_or_plus_of_exactly? read
      (parenthesis_mem_of_splitSize? inside split)) (by decide)
  rw [toList_withSize, splitSize?_of_parenthesis_not_mem plain] at split
  obtain ⟨-, equal⟩ := Prod.mk.inj (Option.some.inj split)
  have text : size.text = digits := String.toList_inj.mp equal
  have exact : Size.length length = size := by
    rw [← written, text, Size.exact, read]
  have digitsText : digits = length.text := by
    rw [← text, ← exact]
    rfl
  exact (Length.eq_text_iff read).mp digitsText padded

/-- Whether the size of a type, if it has one, is read back from its text. -/
def HasWrittenSize (spec : TypeSpec) : Prop :=
  ∀ size, spec.size? = some size → size.IsWritten

/-- Whether a type is a keyword whose text spells out an abstract type with a
padded length. -/
def IsRespelled : TypeSpec → Prop
  | .unresolved keyword none => SpellsPaddedLength keyword
  | _ => False

/-- No value is read as a type that is respelled. -/
theorem not_isRespelled_ofJson (value : Json) :
    ¬(ofJson value).IsRespelled := by
  have resolved := isUnresolved_ofJson value
  cases read : ofJson value with
  | unresolved _ _ => simp [read, isUnresolved] at resolved
  | plain _ | sized _ _ | direct _ => exact id

/-- No keyword of the table has a size in parentheses. -/
theorem ofKeyword?_withSize (name : String) (size : Size) :
    ColumnType.ofKeyword? (withSize name size) = none := by
  rw [ColumnType.ofKeyword?, List.find?_eq_none]
  intro columnType _ found
  have keyword : columnType.keyword? = some (withSize name size) := by
    simpa using found
  refine ColumnType.parenthesis_not_mem_keyword columnType _ keyword ?_
  simp [toList_withSize]

/-- There is no equals sign in a text that spells out a padded length. -/
theorem ne_separator_of_spellsPaddedLength {text : String}
    (spelled : SpellsPaddedLength text) :
    ∀ character ∈ text.toList, character ≠ '=' := by
  obtain ⟨base, digits, rfl, isLength, -⟩ := spelled
  obtain ⟨length, read⟩ := Option.isSome_iff_exists.mp isLength
  rw [toList_withSize]
  rintro character member rfl
  simp only [List.mem_append, List.mem_cons, List.not_mem_nil,
    or_false] at member
  rcases member with named | parenthesis | digit | parenthesis
  · exact ColumnType.separator_not_mem_name base named
  · exact absurd parenthesis (by decide)
  · exact absurd (Length.isDigit_or_plus_of_exactly? read digit) (by decide)
  · exact absurd parenthesis (by decide)

/-- What a text stands for is respelled exactly if the text spells out a padded
length. -/
theorem isRespelled_ofKeyword_parse_iff (text : String) :
    (ofKeyword (TypeKeyword.parse text)).IsRespelled ↔
      SpellsPaddedLength text := by
  constructor
  · intro respelled
    unfold ofKeyword at respelled
    split at respelled
    · contradiction
    · contradiction
    · cases unsized : (TypeKeyword.parse text).size with
      | some size =>
          rw [unsized] at respelled
          contradiction
      | none =>
          rw [unsized,
            TypeKeyword.keyword_parse_of_unsized unsized] at respelled
          exact respelled
  · intro spelled
    have unsized := (TypeKeyword.size_parse_eq_none_iff text).mpr
      (ne_separator_of_spellsPaddedLength spelled)
    have unknown : ColumnType.ofKeyword? text = none := by
      obtain ⟨base, digits, rfl, -⟩ := spelled
      exact ofKeyword?_withSize _ _
    have unresolved : ofKeyword (TypeKeyword.parse text) =
        .unresolved text none := by
      unfold ofKeyword
      rw [TypeKeyword.keyword_parse_of_unsized unsized, unknown, unsized]
    rw [unresolved]
    exact spelled

/-- A settled type is written again after it was read unless it is
respelled. -/
theorem toJson_ofJson_toJson_iff {spec : TypeSpec} (settled : spec.IsSettled)
    (written : spec.HasWrittenSize) :
    (ofJson spec.toJson).toJson = spec.toJson ↔ ¬spec.IsRespelled := by
  cases resolved : spec.isUnresolved with
  | false =>
      rw [(ofJson_toJson_iff settled).mpr resolved]
      cases spec with
      | unresolved _ _ => contradiction
      | plain _ | sized _ _ | direct _ => simp [IsRespelled]
  | true =>
      cases spec with
      | plain _ | sized _ _ | direct _ => contradiction
      | unresolved keyword size =>
          cases size with
          | none => exact toJson_ofJson_string_iff keyword
          | some size =>
              have kept : ¬SpellsPaddedLength (withSize keyword size) :=
                not_spellsPaddedLength_withSize (written size rfl)
              exact iff_of_true ((toJson_ofJson_string_iff _).mpr kept) id

end TypeSpec

/-! ## Columns -/

/-- A default value is written as the value that it was read from. -/
theorem DefaultValue.toJson_ofJson (value : Json) :
    (ofJson value).toJson = value := by
  cases value with
  | string text =>
      by_cases isMarker : text = marker <;> simp [ofJson, toJson, isMarker]
  | null | bool _ | number _ | array _ | object _ => rfl

/-- No value is read as the text of the marker. -/
theorem DefaultValue.ofJson_ne_marker (value : Json) :
    ofJson value ≠ .literal (.string marker) :=
  (ofJson_toJson_iff (ofJson value)).mp
    (congrArg ofJson (toJson_ofJson value))

namespace Column

/-- Whether the type of a column is respelled. -/
def IsRespelled (column : Column) : Prop :=
  ∃ spec, column.columnType = some spec ∧ spec.IsRespelled

/-- Reading a column back changes the value of no property but its type. -/
theorem property?_readBack_of_ne (column : Column) {key : String}
    (differs : key ≠ "type") :
    column.readBack.property? key = column.property? key := by
  unfold property?
  split
  case h_2 => contradiction
  case h_4 =>
    cases set : column.defaultValue <;>
      simp [readBack, set, DefaultValue.toJson_ofJson]
  all_goals rfl

theorem toJson_readBack_iff_property? (column : Column) :
    column.readBack.toJson = column.toJson ↔
      column.readBack.property? "type" = column.property? "type" := by
  constructor
  · intro same
    have written : column.readBack.properties ++ column.options.entries =
        column.properties ++ column.options.entries := Json.object.inj same
    rw [← lookup_properties, ← lookup_properties,
      List.append_cancel_right written]
  · intro sameType
    have same (key : String) :
        column.readBack.property? key = column.property? key := by
      by_cases isType : key = "type"
      · exact isType ▸ sameType
      · exact property?_readBack_of_ne column isType
    simp only [toJson, properties_eq_filterMap, same]
    rfl

/-- A settled column is written again after it was read unless its type is
respelled. -/
theorem toJson_readBack_iff {column : Column} (settled : column.IsSettled)
    (written : ∀ spec, column.columnType = some spec → spec.HasWrittenSize) :
    column.readBack.toJson = column.toJson ↔ ¬column.IsRespelled := by
  rw [toJson_readBack_iff_property?]
  cases set : column.columnType with
  | none => simp [property?, readBack, IsRespelled, set]
  | some spec =>
      have fixed := TypeSpec.toJson_ofJson_toJson_iff
        (settled.columnType spec set) (written spec set)
      simpa [property?, readBack, IsRespelled, set] using fixed

/-- A respelled keyword is read back as a type with a length. -/
theorem IsRespelled.columnType_readBack {column : Column}
    (respelled : column.IsRespelled) : ∃ base length,
      column.readBack.columnType = some (.sized base (.length length)) := by
  obtain ⟨spec, set, spelled⟩ := respelled
  cases spec with
  | plain _ | sized _ _ | direct _ => contradiction
  | unresolved keyword size =>
      cases size with
      | some size => contradiction
      | none =>
          obtain ⟨base, _, length, -, -, -, read⟩ :=
            TypeSpec.ofJson_string_of_spellsPaddedLength spelled
          have typed : column.readBack.columnType =
              some (.ofJson (.string keyword)) := by
            rw [readBack, set]
            rfl
          exact ⟨base, length, typed.trans (congrArg some read)⟩

/-- What is read back from a settled column is settled. -/
theorem IsSettled.readBack {column : Column} (settled : column.IsSettled) :
    column.readBack.IsSettled where
  columnType spec given := by
    obtain ⟨before, set, rfl⟩ := Option.map_eq_some_iff.mp given
    exact TypeSpec.isSettled_ofJson
      (TypeSpec.isNull_toJson (settled.columnType before set))
  options key value kept := by
    obtain ⟨option, unset⟩ := settled.options key value kept
    refine ⟨option, ?_⟩
    by_cases isType : key = "type"
    · subst isType
      contradiction
    · rw [property?_readBack_of_ne column isType, unset]

/-- What is read back is read back again. -/
theorem isFaithful_readBack (column : Column) : column.readBack.IsFaithful := by
  constructor
  · intro spec given
    obtain ⟨before, -, rfl⟩ := Option.map_eq_some_iff.mp given
    exact TypeSpec.isUnresolved_ofJson before.toJson
  · intro set
    obtain ⟨before, -, read⟩ := Option.map_eq_some_iff.mp set
    exact DefaultValue.ofJson_ne_marker before.toJson read

end Column
end TerseSchema
