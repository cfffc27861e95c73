import TerseSchema.Proofs.Text.Lowercase
import TerseSchema.StorageName

/-!
# Storage names are settled

A storage name is spelled with underscores and lower-case characters alone, so
it has no letter at which a word could start, and taking the storage name once
more leaves it as it is.  The names that are their own storage names are
therefore those in lower case.
-/

namespace TerseSchema
namespace StorageName

/-- Whether each character of a name is its own lower case. -/
def IsLowercase (name : String) : Prop :=
  ∀ character ∈ name.toList, Text.IsLowercase character

/-- No word starts at a character that is its own lower case. -/
theorem startsWord_of_isLowercase {character : Char}
    (settled : Text.IsLowercase character) (previous next : Option Char) :
    startsWord previous character next = false := by
  have notUpper : character.isUpper = false := by
    rw [Bool.eq_false_iff]
    exact fun upper => Text.not_isLowercase_of_isUpper upper settled
  simp [startsWord, isUpperLetter, notUpper]

/-- Characters that are their own lower case are spelled as they are. -/
theorem spell_of_isLowercase (previous : Option Char) {characters : List Char}
    (settled : ∀ character ∈ characters, Text.IsLowercase character) :
    spell previous characters = characters := by
  induction characters generalizing previous with
  | nil => rfl
  | cons character rest inductionHypothesis =>
      obtain ⟨first, others⟩ := List.forall_mem_cons.mp settled
      rw [spell_cons, startsWord_of_isLowercase first, inductionHypothesis _
        others, first]
      rfl

/-- Whatever the characters are, their spelling is in lower case. -/
theorem isLowercase_of_mem_spell {previous : Option Char}
    {characters : List Char} {spelled : Char}
    (member : spelled ∈ spell previous characters) :
    Text.IsLowercase spelled := by
  induction characters generalizing previous with
  | nil => simp at member
  | cons character rest inductionHypothesis =>
      rw [spell_cons, List.mem_append, List.mem_append] at member
      rcases member with (inserted | lowered) | later
      · have underscore : spelled = '_' := by
          split at inserted <;> simp_all
        subst underscore
        decide
      · exact Text.isLowercase_of_mem_lowercase lowered
      · exact inductionHypothesis later

theorem isLowercase_normalize (name : String) :
    IsLowercase (normalize name) := by
  intro character member
  rw [normalize, String.toList_ofList] at member
  exact isLowercase_of_mem_spell member

/-- A name is its own storage name exactly if it is in lower case. -/
theorem normalize_eq_self_iff (name : String) :
    normalize name = name ↔ IsLowercase name := by
  constructor
  · intro same
    exact same ▸ isLowercase_normalize name
  · intro settled
    rw [normalize, spell_of_isLowercase none settled, String.ofList_toList]

theorem storageField_eq_none_iff (name : String) :
    storageField name = none ↔ normalize name = name := by
  simp [storageField]

theorem storageField_eq_some_iff (name stored : String) :
    storageField name = some stored ↔
      normalize name ≠ name ∧ normalize name = stored := by
  simp [storageField]

/-- Taking the storage name twice is taking it once.  The names that are their
own storage names are those in lower case, character by character, and these
are the ones without a storage field.  A storage field differs from its name
and has no storage field itself. -/
theorem normalize_settled (name : String) :
    normalize (normalize name) = normalize name ∧
      (normalize name = name ↔
        ∀ character ∈ name.toList, Text.lowercase character = [character]) ∧
      (storageField name = none ↔
        ∀ character ∈ name.toList, Text.lowercase character = [character]) ∧
      ∀ stored, storageField name = some stored →
        stored ≠ name ∧ storageField stored = none := by
  have again : normalize (normalize name) = normalize name :=
    (normalize_eq_self_iff _).mpr (isLowercase_normalize name)
  refine ⟨again, normalize_eq_self_iff name,
    (storageField_eq_none_iff name).trans (normalize_eq_self_iff name), ?_⟩
  intro stored given
  obtain ⟨differs, rfl⟩ := (storageField_eq_some_iff name stored).mp given
  exact ⟨differs, (storageField_eq_none_iff _).mpr again⟩

/-- A capital beyond ASCII becomes lower case without starting a word. -/
theorem normalize_settled_of_accented :
    storageField "ÉtatID" = some "état_id" ∧ "état_id" ≠ "ÉtatID" ∧
      storageField "état_id" = none := by
  have given : storageField "ÉtatID" = some "état_id" := by decide
  obtain ⟨-, -, -, fields⟩ := normalize_settled "ÉtatID"
  exact ⟨given, fields "état_id" given⟩

end StorageName
end TerseSchema
