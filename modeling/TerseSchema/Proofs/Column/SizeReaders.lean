import TerseSchema.Proofs.Column.LeadingNumber
import TerseSchema.Proofs.Text.Bytes

/-!
# The two readers of sizes

The lenient reader of sizes finds a length exactly where a number in range stands
at the start of a text, and the exact reader where nothing else is in the text.
Both keep any other text as it is.  So they agree on whatever the exact one takes
as a length, and a type with a size is read back from its text.

The lenient reader can work on the bytes of a text: it looks at the first byte
behind the blanks for a sign, and cuts the text behind the sign and behind the
last digit.  No cut ever falls outside the text or inside a character.
-/

namespace TerseSchema

/-! ## Reading by bytes -/

namespace Length

/-- Whether the first byte of a text is a minus sign, and the text behind its
sign, if it has one. -/
def unsign? (text : String) : Option (Bool × String) :=
  if Text.firstByte? text = some '-'.toUInt8 then
    (Text.cut? text 1).map fun parts => (true, parts.2)
  else if Text.firstByte? text = some '+'.toUInt8 then
    (Text.cut? text 1).map fun parts => (false, parts.2)
  else some (false, text)

/-- The length whose digits stand at the start of a text.  The text is cut behind
the last digit if there is one. -/
def readDigits? (text : String) : Option (Option Length) :=
  let stop :=
    (Text.findByte? (fun character => !character.isDigit)
      text.toList).getD text.utf8ByteSize
  if stop = 0 then some none
  else (Text.cut? text stop).map fun parts => exactly? parts.1.toList

/-- The length at the start of a text, read by bytes.  The result as a whole is
missing if a cut fails. -/
def readBytes? (text : String) : Option (Option Length) := do
  let (negative, unsigned) ←
    unsign? (String.ofList (Text.trimStart text.toList))
  let read ← readDigits? unsigned
  some (if negative then none else read)

theorem unsign?_minus (rest : List Char) :
    unsign? (String.ofList ('-' :: rest)) =
      some (true, String.ofList rest) := by
  have minus := (Text.firstByte?_eq_iff rest (by decide)).mpr
    (rfl : '-' = '-')
  have isCut : Text.cut? (String.ofList ('-' :: rest)) 1 = _ :=
    Text.cut?_cons '-' rest
  rw [unsign?, if_pos minus, isCut]
  rfl

theorem unsign?_plus (rest : List Char) :
    unsign? (String.ofList ('+' :: rest)) =
      some (false, String.ofList rest) := by
  have plus := (Text.firstByte?_eq_iff rest (by decide)).mpr
    (rfl : '+' = '+')
  have notMinus : Text.firstByte? (String.ofList ('+' :: rest)) ≠
      some '-'.toUInt8 := by
    rw [Ne, Text.firstByte?_eq_iff rest (by decide)]
    decide
  have isCut : Text.cut? (String.ofList ('+' :: rest)) 1 = _ :=
    Text.cut?_cons '+' rest
  rw [unsign?, if_neg notMinus, if_pos plus, isCut]
  rfl

/-- A text without a sign stays whole. -/
theorem unsign?_eq_self {characters : List Char}
    (noMinus : characters.head? ≠ some '-')
    (noPlus : characters.head? ≠ some '+') :
    unsign? (String.ofList characters) =
      some (false, String.ofList characters) := by
  have other {sign : Char} (ascii : sign.toNat < 128)
      (notSign : characters.head? ≠ some sign) :
      Text.firstByte? (String.ofList characters) ≠ some sign.toUInt8 := by
    cases characters with
    | nil => exact nofun
    | cons first rest =>
        rw [Ne, Text.firstByte?_eq_iff rest ascii]
        exact fun same => notSign (congrArg some same)
  rw [unsign?, if_neg (other (by decide) noMinus),
    if_neg (other (by decide) noPlus)]

/-- The digits at the start of a text are cut off without failure. -/
theorem readDigits?_ofList (characters : List Char) :
    readDigits? (String.ofList characters) =
      some (ofNat? (Nat.ofDigitChars 10
        (characters.takeWhile Char.isDigit) 0)) := by
  have areDigits : (characters.takeWhile Char.isDigit).all Char.isDigit =
      true := List.all_eq_true.mpr fun _ => List.mem_takeWhile_imp
  have stops := Text.findByte?_eq_utf8ByteSize Char.isDigit characters
  have isCut := Text.cut?_takeWhile Char.isDigit characters
  unfold readDigits?
  rw [String.toList_ofList, stops]
  dsimp only
  split
  · rename_i empty
    have none : characters.takeWhile Char.isDigit = [] := by
      simpa using String.utf8ByteSize_eq_zero_iff.mp empty
    rw [none]
    rfl
  · rw [isCut, Option.map_some, String.toList_ofList, exactly?,
      skipPlus_of_isDigit areDigits, if_pos areDigits]

/-- Reading by bytes never fails, and it finds the length at the start of a
text. -/
theorem readBytes?_eq_atStart? (text : String) :
    readBytes? text = some (atStart? text.toList) := by
  unfold readBytes? atStart?
  generalize Text.trimStart text.toList = characters
  by_cases minus : characters.head? = some '-'
  -- The digits behind a minus sign are cut off too, but they do not count.
  · obtain ⟨rest, rfl⟩ := List.head?_eq_some_iff.mp minus
    rw [unsign?_minus, skipPlus_eq_self (by simp)]
    simp [readDigits?_ofList, ofNat?]
  · by_cases plus : characters.head? = some '+'
    · obtain ⟨rest, rfl⟩ := List.head?_eq_some_iff.mp plus
      rw [unsign?_plus]
      simp [readDigits?_ofList, skipPlus]
    · rw [unsign?_eq_self minus plus, skipPlus_eq_self plus]
      simp [readDigits?_ofList]

/-! ## What the exact reader finds -/

/-- A text is a length as a whole exactly if it is a number of that value, with
nothing in front of it or behind it. -/
theorem exactly?_eq_some_iff (characters : List Char) (length : Length) :
    exactly? characters = some length ↔
      ∃ number : LeadingNumber characters, number.blanks = [] ∧
        number.rest = [] ∧ number.value = length.value := by
  constructor
  · intro read
    obtain ⟨digits, value⟩ := (exactly?_eq_some_iff_digits _ _).mp read
    refine ⟨{
      blanks := []
      sign := LeadingNumber.plusOf characters
      digits := skipPlus characters
      rest := []
      spelled := ?_
      blank := nofun
      unsigned := LeadingNumber.plusOf_cases characters
      digit := List.all_eq_true.mp digits
      nonempty := ?_
      maximal := nofun }, rfl, rfl, value.symm⟩
    · rw [List.append_nil]
      exact (LeadingNumber.plusOf_append_skipPlus characters).symm
    · intro empty
      rw [empty, Nat.ofDigitChars_nil] at value
      exact length.positive.ne' value
  · rintro ⟨number, noBlanks, noRest, value⟩
    have unsigned := number.skipPlus_sign
    have whole := number.spelled
    rw [noRest, List.append_nil] at unsigned
    rw [noBlanks, noRest, List.append_nil, List.nil_append] at whole
    rw [exactly?_eq_some_iff_digits, congrArg skipPlus whole, unsigned]
    exact ⟨List.all_eq_true.mpr number.digit, value.symm⟩

end Length

/-! ## Sizes -/

namespace Size

/-- The size of a text whose leading number counts, read by bytes. -/
def readBytes? (text : String) : Option Size :=
  (Length.readBytes? text).map fun read =>
    match read with
    | some value => .length value
    | none => .raw text

theorem readBytes?_eq_lenient (text : String) :
    readBytes? text = some (lenient text) := by
  rw [readBytes?, Length.readBytes?_eq_atStart?]
  rfl

theorem lenient_eq_length_iff (text : String) (length : Length) :
    lenient text = .length length ↔
      ∃ number : LeadingNumber text.toList, number.value = length.value := by
  rw [← Length.atStart?_eq_some_iff, lenient]
  cases Length.atStart? text.toList <;> simp

/-- A text is kept as it is exactly if no number in range stands at its
start. -/
theorem lenient_eq_raw_iff (text kept : String) :
    lenient text = .raw kept ↔ kept = text ∧
      ¬∃ number : LeadingNumber text.toList,
        1 ≤ number.value ∧ number.value ≤ 18446744073709551615 := by
  rw [← Length.isSome_atStart?_iff, lenient]
  cases Length.atStart? text.toList <;> simp [eq_comm]

theorem exact_eq_length_iff (text : String) (length : Length) :
    exact text = .length length ↔
      ∃ number : LeadingNumber text.toList, number.blanks = [] ∧
        number.rest = [] ∧ number.value = length.value := by
  rw [← Length.exactly?_eq_some_iff, exact]
  cases Length.exactly? text.toList <;> simp

end Size

/-! ## Types in a descriptor -/

namespace TypeSpec

/-- The printed form of a type in a descriptor is read as that type exactly if
its keyword is in the table. -/
theorem ofJson_text_ofKeyword_parse_iff (text : String) :
    ofJson (.string (ofKeyword (.parse text)).text) =
        ofKeyword (.parse text) ↔
      (ColumnType.ofKeyword? (TypeKeyword.parse text).keyword).isSome =
        true := by
  have printed : (ofKeyword (.parse text)).toJson =
      .string (ofKeyword (.parse text)).text := by
    unfold ofKeyword
    split <;> rfl
  have resolved : (ofKeyword (.parse text)).isUnresolved = false ↔
      (ColumnType.ofKeyword? (TypeKeyword.parse text).keyword).isSome =
        true := by
    unfold ofKeyword
    split <;> simp_all [isUnresolved]
  rw [← printed, ofJson_toJson_iff (isSettled_ofKeyword_parse text), resolved]

end TypeSpec

/-- The lenient reader takes a text as a length exactly if it starts with a
number of that value, and keeps it as it is exactly if no number from one to the
greatest one of 64 bits stands at its start.  It can be read by bytes without a
cut that fails.

The exact reader takes a text as a length exactly if it is such a number as a
whole.  It reads the printed form of a length as this length, and keeps whatever
the lenient reader keeps.  So the printed form of a type in a descriptor is read
as that type, provided that its keyword is in the table. -/
theorem size_readers_agree (text : String) :
    (∀ length, Size.lenient text = .length length ↔
      ∃ number : LeadingNumber text.toList, number.value = length.value) ∧
    (∀ kept, Size.lenient text = .raw kept ↔ kept = text ∧
      ¬∃ number : LeadingNumber text.toList,
        1 ≤ number.value ∧ number.value ≤ 18446744073709551615) ∧
    Size.readBytes? text = some (Size.lenient text) ∧
    (∀ length, Size.exact text = .length length ↔
      ∃ number : LeadingNumber text.toList, number.blanks = [] ∧
        number.rest = [] ∧ number.value = length.value) ∧
    (∀ length : Length, Size.exact length.text = .length length) ∧
    (∀ kept, Size.lenient text = .raw kept → Size.exact kept = .raw kept) ∧
    (TypeSpec.ofJson (.string (TypeSpec.ofKeyword (.parse text)).text) =
        TypeSpec.ofKeyword (.parse text) ↔
      (ColumnType.ofKeyword? (TypeKeyword.parse text).keyword).isSome =
        true) := by
  refine ⟨Size.lenient_eq_length_iff text, Size.lenient_eq_raw_iff text,
    Size.readBytes?_eq_lenient text, Size.exact_eq_length_iff text,
    Size.isWritten_length, ?_, TypeSpec.ofJson_text_ofKeyword_parse_iff text⟩
  intro kept read
  have written := Size.isWritten_lenient text
  rw [read] at written
  exact written

end TerseSchema
