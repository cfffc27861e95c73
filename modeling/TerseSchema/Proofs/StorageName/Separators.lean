import TerseSchema.Proofs.Text.Lowercase
import TerseSchema.StorageName

/-!
# Names fall apart at separators

A separator is a character that is none of the letters that decide where words
start.  These letters see a separator next to them as they see the end of the
name.  So the parts of a name between separators have storage names of their
own, and the storage name of the whole is put together from them, with the
separators in lower case where they were.
-/

namespace TerseSchema
namespace StorageName

/-! ## Letters -/

/-- The lower-case letters that can end or continue a word. -/
def lowerLetters : List Char :=
  "abcdefghijklmnoprstuvwxyz".toList

/-- The upper-case letters that can start a word. -/
def upperLetters : List Char :=
  "ABCDEFGHIJKLMNOPRSTUVWXYZ".toList

/-- A class of letters within 26 code points is a list of letters if the list
has all letters of the class and no others. -/
theorem isLetter_eq_contains {isLetter : Char → Bool} {letters : List Char}
    (first : Nat)
    (range : ∀ character, isLetter character = true →
      first ≤ character.toNat ∧ character.toNat ≤ first + 25)
    (listed : ∀ place : Fin 26, isLetter (Char.ofNat (first + place)) = true →
      letters.contains (Char.ofNat (first + place)) = true)
    (lettersOnly : letters.all isLetter = true) :
    isLetter = letters.contains := by
  funext character
  rw [Bool.eq_iff_iff]
  constructor
  · intro letter
    obtain ⟨lower, upper⟩ := range character letter
    have placed := listed ⟨character.toNat - first, by omega⟩
    rw [Nat.add_sub_cancel' lower, Char.ofNat_toNat] at placed
    exact placed letter
  · intro member
    exact List.all_eq_true.mp lettersOnly character
      (List.contains_iff_mem.mp member)

theorem isLowerLetter_eq_contains :
    isLowerLetter = lowerLetters.contains := by
  refine isLetter_eq_contains 97 ?_ (by decide) (by decide)
  intro character letter
  have lower : character.isLower = true := (Bool.and_eq_true_iff.mp letter).1
  obtain ⟨atLeast, atMost⟩ := Bool.and_eq_true_iff.mp lower
  exact ⟨UInt32.le_iff_toNat_le.mp (of_decide_eq_true atLeast),
    UInt32.le_iff_toNat_le.mp (of_decide_eq_true atMost)⟩

theorem isUpperLetter_eq_contains :
    isUpperLetter = upperLetters.contains := by
  refine isLetter_eq_contains 65 ?_ (by decide) (by decide)
  intro character letter
  exact Text.bounds_of_isUpper (Bool.and_eq_true_iff.mp letter).1

/-- No word starts at the first character of a name. -/
theorem startsWord_none (character : Char) (next : Option Char) :
    startsWord none character next = false := by
  rw [startsWord, Option.any_none, Option.any_none, Bool.false_and,
    Bool.or_false, Bool.and_false]

/-! ## Separators -/

/-- Whether a character is none of the letters. -/
structure IsSeparator (character : Char) : Prop where
  notLower : character ∉ lowerLetters
  notUpper : character ∉ upperLetters

/-- Whether a character is a digit, one of a few ASCII characters, or beyond
ASCII. -/
def isNoLetter (character : Char) : Bool :=
  character.isDigit || ['_', '.', ' ', 'q', 'Q'].contains character ||
    128 ≤ character.toNat

theorem isSeparator_of_isNoLetter {character : Char}
    (noLetter : isNoLetter character = true) : IsSeparator character := by
  have letters : (lowerLetters ++ upperLetters).all (!isNoLetter ·) = true := by
    decide
  have absent : character ∉ lowerLetters ++ upperLetters := by
    intro member
    have letter := List.all_eq_true.mp letters character member
    rw [noLetter] at letter
    contradiction
  rw [List.mem_append, not_or] at absent
  exact ⟨absent.1, absent.2⟩

namespace IsSeparator

variable {separator : Char} (separates : IsSeparator separator)
include separates

theorem isLowerLetter_eq_false : isLowerLetter separator = false := by
  rw [isLowerLetter_eq_contains, Bool.eq_false_iff, ne_eq,
    List.contains_iff_mem]
  exact separates.notLower

theorem isUpperLetter_eq_false : isUpperLetter separator = false := by
  rw [isUpperLetter_eq_contains, Bool.eq_false_iff, ne_eq,
    List.contains_iff_mem]
  exact separates.notUpper

/-- No word starts at a separator. -/
theorem startsWord_self (previous next : Option Char) :
    startsWord previous separator next = false := by
  rw [startsWord, separates.isUpperLetter_eq_false, Bool.false_and]

/-- No word starts right after a separator. -/
theorem startsWord_behind (character : Char) (next : Option Char) :
    startsWord (some separator) character next = false := by
  rw [startsWord, Option.any_some, Option.any_some,
    separates.isLowerLetter_eq_false, separates.isUpperLetter_eq_false,
    Bool.false_and, Bool.or_false, Bool.and_false]

/-- In front of a separator words start where they do at the end. -/
theorem startsWord_before (previous : Option Char) (character : Char) :
    startsWord previous character (some separator) =
      startsWord previous character none := by
  rw [startsWord, startsWord, Option.any_some, Option.any_none,
    separates.isLowerLetter_eq_false]

/-- Behind a separator the spelling starts afresh. -/
theorem spell_behind (characters : List Char) :
    spell (some separator) characters = spell none characters := by
  cases characters with
  | nil => rfl
  | cons character rest =>
      rw [spell_cons, spell_cons, separates.startsWord_behind, startsWord_none]

/-- What stands in front of a separator and behind it is spelled on its
own. -/
theorem spell_append_cons (previous : Option Char)
    (front back : List Char) :
    spell previous (front ++ separator :: back) =
      spell previous front ++ (Text.lowercase separator ++ spell none back) := by
  induction front generalizing previous with
  | nil =>
      rw [List.nil_append, spell_cons, separates.startsWord_self,
        separates.spell_behind]
      rfl
  | cons character rest inductionHypothesis =>
      have sight : startsWord previous character
            (rest ++ separator :: back).head? =
          startsWord previous character rest.head? := by
        cases rest with
        | nil => exact separates.startsWord_before previous character
        | cons next others => rfl
      rw [List.cons_append, spell_cons, spell_cons, sight,
        inductionHypothesis]
      simp only [List.append_assoc]

end IsSeparator

/-! ## Runs of separators -/

/-- What stands in front of a run of separators and behind it is spelled on its
own. -/
theorem spell_append_separators (previous : Option Char) (front : List Char)
    {separators : List Char} (back : List Char) (nonempty : separators ≠ [])
    (separate : ∀ character ∈ separators, IsSeparator character) :
    spell previous (front ++ (separators ++ back)) =
      spell previous front ++
        (separators.flatMap Text.lowercase ++ spell none back) := by
  induction separators generalizing previous front with
  | nil => contradiction
  | cons separator rest inductionHypothesis =>
      obtain ⟨first, others⟩ := List.forall_mem_cons.mp separate
      rw [List.cons_append, first.spell_append_cons, List.flatMap_cons,
        List.append_assoc]
      by_cases last : rest = []
      · rw [last]
        rfl
      · have following := inductionHypothesis none [] last others
        rw [List.nil_append, spell_nil, List.nil_append] at following
        rw [following]

/-- A run of separators and the text behind it. -/
structure Segment where
  separators : String
  text : String
  nonempty : separators ≠ ""
  separate : ∀ character ∈ separators.toList, IsSeparator character

/-- A text followed by segments. -/
def assemble (first : String) (segments : List Segment) : String :=
  segments.foldl (fun name segment => name ++ segment.separators ++ segment.text)
    first

theorem normalize_append_segment (name : String) (segment : Segment) :
    normalize (name ++ segment.separators ++ segment.text) =
      normalize name ++ Text.lowercased segment.separators ++
        normalize segment.text := by
  have nonempty : segment.separators.toList ≠ [] := by
    rw [ne_eq, String.toList_eq_nil_iff]
    exact segment.nonempty
  simp only [normalize, Text.lowercased, String.toList_append,
    List.append_assoc, ← String.ofList_append]
  rw [spell_append_separators none _ _ nonempty segment.separate]

theorem normalize_assemble (first : String) (segments : List Segment) :
    normalize (assemble first segments) =
      segments.foldl (fun glued segment =>
        glued ++ Text.lowercased segment.separators ++ normalize segment.text)
        (normalize first) := by
  induction segments generalizing first with
  | nil => rfl
  | cons segment rest inductionHypothesis =>
      rw [List.foldl_cons, ← normalize_append_segment]
      exact inductionHypothesis _

/-- Digits, underscores, dots, spaces, either q and all characters beyond ASCII
are separators.  A name that has a separator in it is spelled on either side as
if the other side were not there, and a name with any number of runs of
separators is put together from the storage names of its parts. -/
theorem normalize_at_separators :
    (∀ character : Char, character.isDigit = true ∨
        character ∈ ['_', '.', ' ', 'q', 'Q'] ∨ 128 ≤ character.toNat →
      character ∉ lowerLetters ∧ character ∉ upperLetters) ∧
      (∀ (front back : String) (separator : Char),
        separator ∉ lowerLetters → separator ∉ upperLetters →
        normalize (front ++ String.singleton separator ++ back) =
          normalize front ++ String.ofList (Text.lowercase separator) ++
            normalize back) ∧
      ∀ (first : String) (segments : List Segment),
        normalize (assemble first segments) =
          segments.foldl (fun glued segment =>
            glued ++ Text.lowercased segment.separators ++
              normalize segment.text) (normalize first) := by
  refine ⟨?_, ?_, normalize_assemble⟩
  · intro character noLetter
    have separates : IsSeparator character := by
      apply isSeparator_of_isNoLetter
      simpa [isNoLetter, or_assoc] using noLetter
    exact ⟨separates.notLower, separates.notUpper⟩
  · intro front back separator notLower notUpper
    have spelled := IsSeparator.spell_append_cons ⟨notLower, notUpper⟩ none
      front.toList back.toList
    simp only [normalize, String.toList_append, String.toList_singleton,
      List.singleton_append, spelled, String.ofList_append,
      String.append_assoc]

/-- A full stop, an underscore and a digit are one run of separators, and a
capital that follows them starts no word. -/
def serverSegment : Segment where
  separators := "._2"
  text := "HTTPServer"
  nonempty := by decide
  separate character member :=
    isSeparator_of_isNoLetter (List.all_eq_true.mp
      (by decide : "._2".toList.all isNoLetter = true) character member)

/-- A q is a separator, so the capital behind it starts no word. -/
theorem normalize_around_q_and_dot :
    'Q' ∉ lowerLetters ∧ 'Q' ∉ upperLetters ∧
      normalize ("userID" ++ "Q" ++ "ABCName") =
        "user_id" ++ "q" ++ "abc_name" ∧
      normalize (assemble "fooBar" [serverSegment]) =
        "foo_bar._2http_server" := by
  obtain ⟨-, single, segmented⟩ := normalize_at_separators
  have notLower : 'Q' ∉ lowerLetters := by decide
  have notUpper : 'Q' ∉ upperLetters := by decide
  refine ⟨notLower, notUpper, ?_, ?_⟩
  · exact (single "userID" "ABCName" 'Q' notLower notUpper).trans (by decide)
  · exact (segmented _ _).trans (by decide)

end StorageName
end TerseSchema
