import TerseSchema.Proofs.Column.TypeText

/-!
# Numbers at the start of a text

The lenient reader of sizes finds a length in a text exactly if the text starts
with a number in range: blanks, at most one plus sign, and a run of digits that
is neither empty nor goes on.
-/

namespace TerseSchema

/-- A number at the start of characters. -/
structure LeadingNumber (characters : List Char) where
  /-- What stands in front of the number. -/
  blanks : List Char
  /-- The sign of the number, if it has one. -/
  sign : List Char
  /-- The digits of the number. -/
  digits : List Char
  /-- What follows the number. -/
  rest : List Char
  /-- The characters are these parts in order. -/
  spelled : characters = blanks ++ (sign ++ (digits ++ rest))
  /-- Nothing but blanks stands in front. -/
  blank : ∀ character ∈ blanks, Text.isBlank character = true
  /-- The sign is at most one plus sign. -/
  unsigned : sign = [] ∨ sign = ['+']
  /-- The digits are ASCII digits. -/
  digit : ∀ character ∈ digits, character.isDigit = true
  /-- There is a digit. -/
  nonempty : digits ≠ []
  /-- The run of digits does not go on. -/
  maximal : ∀ character ∈ rest.head?, character.isDigit = false

namespace LeadingNumber

variable {characters : List Char}

/-- The decimal value of a number. -/
def value (number : LeadingNumber characters) : Nat :=
  Nat.ofDigitChars 10 number.digits 0

/-! ## The reader finds the number -/

/-- A run of digits is found as a whole. -/
theorem takeWhile_digits (number : LeadingNumber characters) :
    (number.digits ++ number.rest).takeWhile Char.isDigit = number.digits := by
  have stops : number.rest.takeWhile Char.isDigit = [] := by
    cases following : number.rest with
    | nil => rfl
    | cons first others =>
        have noDigit := number.maximal first (by simp [following])
        simp [noDigit]
  rw [List.takeWhile_append_of_pos number.digit, stops, List.append_nil]

/-- No sign stands in front of the first digit. -/
theorem skipPlus_sign (number : LeadingNumber characters) :
    Length.skipPlus (number.sign ++ (number.digits ++ number.rest)) =
      number.digits ++ number.rest := by
  rcases number.unsigned with none | plus
  · obtain ⟨first, others, digits⟩ := List.exists_cons_of_ne_nil number.nonempty
    have isDigit : first.isDigit = true :=
      number.digit first (by simp [digits])
    have notPlus : first ≠ '+' := by
      rintro rfl
      contradiction
    rw [none, digits]
    exact Length.skipPlus_eq_self (by simpa using notPlus)
  · rw [plus]
    rfl

/-- The blanks in front of a number are all there are. -/
theorem trimStart_blanks (number : LeadingNumber characters) :
    Text.trimStart characters =
      number.sign ++ (number.digits ++ number.rest) := by
  obtain ⟨first, others, digits⟩ := List.exists_cons_of_ne_nil number.nonempty
  have notBlank : Text.isBlank first = false :=
    Text.isBlank_of_isDigit (number.digit first (by simp [digits]))
  have plusNotBlank : Text.isBlank '+' = false := by decide
  refine (congrArg Text.trimStart number.spelled).trans ?_
  rw [Text.trimStart, List.dropWhile_append_of_pos number.blank]
  rcases number.unsigned with none | plus
  · simp [none, digits, notBlank]
  · simp [plus, plusNotBlank]

theorem atStart?_eq_ofNat?_value (number : LeadingNumber characters) :
    Length.atStart? characters = Length.ofNat? number.value := by
  unfold Length.atStart?
  rw [number.trimStart_blanks, number.skipPlus_sign]
  dsimp only
  rw [number.takeWhile_digits]
  rfl

/-! ## What the reader finds is a number -/

/-- The plus sign at the start of characters, if there is one. -/
def plusOf : List Char → List Char
  | '+' :: _ => ['+']
  | _ => []

theorem plusOf_append_skipPlus (characters : List Char) :
    plusOf characters ++ Length.skipPlus characters = characters := by
  unfold plusOf
  split
  · rfl
  · rename_i notPlus
    unfold Length.skipPlus
    split
    · exact absurd rfl (notPlus _)
    · rfl

theorem plusOf_cases (characters : List Char) :
    plusOf characters = [] ∨ plusOf characters = ['+'] := by
  unfold plusOf
  split
  · exact Or.inr rfl
  · exact Or.inl rfl

/-- The number that the reader finds if it finds digits. -/
def ofDigits (characters : List Char)
    (nonempty : (Length.skipPlus (Text.trimStart characters)).takeWhile
      Char.isDigit ≠ []) : LeadingNumber characters where
  blanks := characters.takeWhile Text.isBlank
  sign := plusOf (Text.trimStart characters)
  digits := (Length.skipPlus (Text.trimStart characters)).takeWhile Char.isDigit
  rest := (Length.skipPlus (Text.trimStart characters)).dropWhile Char.isDigit
  spelled := by
    rw [List.takeWhile_append_dropWhile, plusOf_append_skipPlus]
    exact List.takeWhile_append_dropWhile.symm
  blank _ member := List.mem_takeWhile_imp member
  unsigned := plusOf_cases _
  digit _ member := List.mem_takeWhile_imp member
  nonempty := nonempty
  maximal character first := by
    have stopped := List.head?_dropWhile_not Char.isDigit
      (Length.skipPlus (Text.trimStart characters))
    rw [Option.mem_def.mp first] at stopped
    exact stopped

end LeadingNumber

namespace Length

/-- A text starts with a length exactly if it starts with a number of that
value. -/
theorem atStart?_eq_some_iff (characters : List Char) (length : Length) :
    atStart? characters = some length ↔
      ∃ number : LeadingNumber characters, number.value = length.value := by
  constructor
  · intro read
    by_cases digits : (skipPlus (Text.trimStart characters)).takeWhile
        Char.isDigit = []
    · simp [atStart?, digits, ofNat?, Nat.ofDigitChars] at read
    · let number := LeadingNumber.ofDigits characters digits
      rw [number.atStart?_eq_ofNat?_value, ofNat?_eq_some_iff] at read
      exact ⟨number, read.symm⟩
  · rintro ⟨number, value⟩
    rw [number.atStart?_eq_ofNat?_value, value, ofNat?_value]

/-- A text starts with some length exactly if it starts with a number from one
to the greatest one of 64 bits. -/
theorem isSome_atStart?_iff (characters : List Char) :
    (atStart? characters).isSome = true ↔
      ∃ number : LeadingNumber characters,
        1 ≤ number.value ∧ number.value ≤ 18446744073709551615 := by
  rw [Option.isSome_iff_exists]
  constructor
  · rintro ⟨length, read⟩
    obtain ⟨number, value⟩ := (atStart?_eq_some_iff _ _).mp read
    exact ⟨number, value ▸ length.positive,
      value ▸ Nat.le_of_lt_succ length.bounded⟩
  · rintro ⟨number, positive, bounded⟩
    exact ⟨⟨number.value, positive, Nat.lt_succ_of_le bounded⟩,
      (atStart?_eq_some_iff _ _).mpr ⟨number, rfl⟩⟩

end Length
end TerseSchema
