import TerseSchema.Proofs.StorageName.Separators
import Mathlib.Data.List.Basic

/-!
# Underscores of storage names

Spelling a name adds underscores and nothing else to its characters in lower
case.  An added underscore stands in front of the lower case of a letter and
behind the lower case of another one, so it is neither at an end of the storage
name nor next to a further underscore, and there is one for each place at which
a word starts.
-/

namespace TerseSchema
namespace StorageName

/-! ## Places -/

/-- Whether a word starts at a place: an upper-case letter stands there behind
a lower-case letter, or behind an upper-case letter and in front of a
lower-case one. -/
def isWordStart (characters : List Char) (place : Nat) : Bool :=
  0 < place && characters[place]?.any upperLetters.contains &&
    (characters[place - 1]?.any lowerLetters.contains ||
      (characters[place - 1]?.any upperLetters.contains &&
        characters[place + 1]?.any lowerLetters.contains))

/-- Number of places at which a word starts. -/
def wordStarts (characters : List Char) : Nat :=
  (List.range characters.length).countP (isWordStart characters)

theorem isWordStart_one (previous character : Char) (rest : List Char) :
    isWordStart (previous :: character :: rest) 1 =
      startsWord (some previous) character rest.head? := by
  rw [startsWord, isLowerLetter_eq_contains, isUpperLetter_eq_contains,
    List.head?_eq_getElem?]
  rfl

/-- A further character in front moves the later places by one. -/
theorem isWordStart_cons (previous character : Char) (rest : List Char)
    (place : Nat) :
    isWordStart (previous :: character :: rest) (place + 2) =
      isWordStart (character :: rest) (place + 1) := by
  simp [isWordStart]

/-- No word starts at the first place. -/
theorem wordStarts_cons (character : Char) (rest : List Char) :
    wordStarts (character :: rest) =
      (List.range rest.length).countP fun place =>
        isWordStart (character :: rest) (place + 1) := by
  have notFirst : ¬isWordStart (character :: rest) 0 = true := nofun
  rw [wordStarts, List.length_cons, List.range_succ_eq_map, List.countP_cons,
    List.countP_map, if_neg notFirst]
  rfl

theorem wordStarts_singleton (character : Char) :
    wordStarts [character] = 0 := by
  rw [wordStarts_cons]
  rfl

theorem wordStarts_cons_cons (previous character : Char) (rest : List Char) :
    wordStarts (previous :: character :: rest) =
      (if startsWord (some previous) character rest.head? then 1 else 0) +
        wordStarts (character :: rest) := by
  have second : isWordStart (previous :: character :: rest) (0 + 1) =
      startsWord (some previous) character rest.head? :=
    isWordStart_one previous character rest
  have later : (fun place => isWordStart (previous :: character :: rest)
      (place + 1)) ∘ Nat.succ =
        fun place => isWordStart (character :: rest) (place + 1) := by
    funext place
    exact isWordStart_cons previous character rest place
  rw [wordStarts_cons, wordStarts_cons, List.length_cons,
    List.range_succ_eq_map, List.countP_cons, List.countP_map, second, later,
    Nat.add_comm]

/-! ## What is added -/

theorem count_underscore_lowercase (character : Char) :
    (Text.lowercase character).count '_' = [character].count '_' := by
  by_cases same : character = '_'
  · subst same
    decide
  · rw [List.count_eq_zero_of_not_mem, List.count_eq_zero_of_not_mem]
    · simpa using Ne.symm same
    · rwa [Text.underscore_mem_lowercase_iff]

/-- Behind a character one underscore is added for each start of a word. -/
theorem count_underscore_spell (previous : Char) (characters : List Char) :
    (spell (some previous) characters).count '_' =
      characters.count '_' + wordStarts (previous :: characters) := by
  induction characters generalizing previous with
  | nil => rw [wordStarts_singleton]; rfl
  | cons character rest inductionHypothesis =>
      rw [spell_cons, List.count_append, List.count_append,
        count_underscore_lowercase, inductionHypothesis, wordStarts_cons_cons,
        ← List.singleton_append (l := rest), List.count_append]
      split
      · rw [List.count_singleton_self]
        omega
      · rw [List.count_nil]
        omega

/-- Apart from underscores the spelling is the one in lower case. -/
theorem filter_spell (previous : Option Char) (characters : List Char) :
    (spell previous characters).filter (· ≠ '_') =
      (characters.flatMap Text.lowercase).filter (· ≠ '_') := by
  induction characters generalizing previous with
  | nil => rfl
  | cons character rest inductionHypothesis =>
      rw [spell_cons, List.filter_append, List.filter_append,
        inductionHypothesis, List.flatMap_cons, List.filter_append]
      split <;> rfl

/-! ## Ends -/

theorem isSeparator_underscore : IsSeparator '_' :=
  isSeparator_of_isNoLetter rfl

theorem head?_lowercase_eq_underscore_iff (character : Char) :
    (Text.lowercase character).head? = some '_' ↔ character = '_' := by
  constructor
  · intro first
    exact (Text.underscore_mem_lowercase_iff character).mp
      (List.mem_of_head? first)
  · rintro rfl
    decide

theorem getLast?_lowercase_eq_underscore_iff (character : Char) :
    (Text.lowercase character).getLast? = some '_' ↔ character = '_' := by
  constructor
  · intro last
    exact (Text.underscore_mem_lowercase_iff character).mp
      (List.mem_of_getLast? last)
  · rintro rfl
    decide

theorem spell_ne_nil (previous : Option Char) {characters : List Char}
    (nonempty : characters ≠ []) : spell previous characters ≠ [] := by
  obtain ⟨character, rest, rfl⟩ := List.exists_cons_of_ne_nil nonempty
  simp [spell_cons, Text.lowercase_ne_nil]

/-- A name starts with an underscore exactly if its spelling does. -/
theorem head?_spell_eq_underscore_iff (characters : List Char) :
    (spell none characters).head? = some '_' ↔
      characters.head? = some '_' := by
  cases characters with
  | nil => rfl
  | cons character rest =>
      rw [spell_cons, startsWord_none, List.append_assoc, if_neg nofun,
        List.nil_append,
        List.head?_append_of_ne_nil _ (Text.lowercase_ne_nil character),
        head?_lowercase_eq_underscore_iff, List.head?_cons, Option.some_inj]

/-- A name ends with an underscore exactly if its spelling does. -/
theorem getLast?_spell_eq_underscore_iff (previous : Option Char)
    (characters : List Char) :
    (spell previous characters).getLast? = some '_' ↔
      characters.getLast? = some '_' := by
  induction characters generalizing previous with
  | nil => rfl
  | cons character rest inductionHypothesis =>
      rw [spell_cons]
      by_cases last : rest = []
      · rw [last, spell_nil, List.append_nil,
          List.getLast?_append_of_ne_nil _ (Text.lowercase_ne_nil character),
          getLast?_lowercase_eq_underscore_iff, List.getLast?_singleton,
          Option.some_inj]
      · rw [List.getLast?_append_of_ne_nil _ (spell_ne_nil _ last),
          inductionHypothesis, List.getLast?_cons_of_ne_nil last]

/-! ## Pairs -/

/-- Number of pairs of underscores next to each other. -/
def doubled (characters : List Char) : Nat :=
  (characters.zip characters.tail).count ('_', '_')

theorem doubled_cons (character : Char) (rest : List Char) :
    doubled (character :: rest) =
      (if character = '_' ∧ rest.head? = some '_' then 1 else 0) +
        doubled rest := by
  cases rest with
  | nil => simp [doubled]
  | cons next others =>
      simp [doubled, List.count_cons, Nat.add_comm]

theorem doubled_cons_of_ne {character : Char} (other : character ≠ '_')
    (rest : List Char) : doubled (character :: rest) = doubled rest := by
  rw [doubled_cons, if_neg fun both => other both.1, Nat.zero_add]

/-- Characters without an underscore bring no pair. -/
theorem doubled_append_of_not_mem {front : List Char} (absent : '_' ∉ front)
    (back : List Char) : doubled (front ++ back) = doubled back := by
  induction front with
  | nil => rfl
  | cons character rest inductionHypothesis =>
      rw [List.mem_cons, not_or] at absent
      obtain ⟨other, later⟩ := absent
      rw [List.cons_append, doubled_cons_of_ne (Ne.symm other),
        inductionHypothesis later]

/-- An underscore in front of a word is next to no further one. -/
theorem doubled_underscore_append {front : List Char} (absent : '_' ∉ front)
    (nonempty : front ≠ []) (back : List Char) :
    doubled ('_' :: (front ++ back)) = doubled back := by
  have single : ¬('_' = '_' ∧ (front ++ back).head? = some '_') := by
    rw [List.head?_append_of_ne_nil _ nonempty]
    exact fun both => absent (List.mem_of_head? both.2)
  rw [doubled_cons, if_neg single, Nat.zero_add,
    doubled_append_of_not_mem absent]

/-- Spelling makes and breaks no pair.  An underscore of the name itself keeps
its neighbours, as it is a separator; before any other character there may be
an added one, which has no underscore after it. -/
theorem doubled_spell (previous : Option Char) (characters : List Char) :
    doubled (spell previous characters) = doubled characters := by
  induction characters generalizing previous with
  | nil => rfl
  | cons character rest inductionHypothesis =>
      by_cases same : character = '_'
      · subst same
        have kept : spell previous ('_' :: rest) = '_' :: spell none rest :=
          isSeparator_underscore.spell_append_cons previous [] rest
        rw [kept, doubled_cons, doubled_cons, inductionHypothesis]
        simp only [head?_spell_eq_underscore_iff]
      · have absent : '_' ∉ Text.lowercase character := by
          rwa [Text.underscore_mem_lowercase_iff]
        rw [doubled_cons_of_ne same, spell_cons, List.append_assoc,
          ← inductionHypothesis (some character)]
        split
        · exact doubled_underscore_append absent
            (Text.lowercase_ne_nil character) _
        · exact doubled_append_of_not_mem absent _

/-- A storage name without its underscores is the name in lower case without
its underscores.  It starts and ends with an underscore exactly if the name
does, and has as many pairs of underscores next to each other.  The underscores
that it has more than the name are as many as the places at which a word
starts. -/
theorem normalize_adds_underscores (name : String) :
    (normalize name).toList.filter (· ≠ '_') =
        (Text.lowercased name).toList.filter (· ≠ '_') ∧
      ((normalize name).toList.head? = some '_' ↔
        name.toList.head? = some '_') ∧
      ((normalize name).toList.getLast? = some '_' ↔
        name.toList.getLast? = some '_') ∧
      doubled (normalize name).toList = doubled name.toList ∧
      (normalize name).toList.count '_' =
        name.toList.count '_' + wordStarts name.toList := by
  have counted : (spell none name.toList).count '_' =
      name.toList.count '_' + wordStarts name.toList := by
    cases name.toList with
    | nil => rfl
    | cons character rest =>
        rw [spell_cons, startsWord_none, if_neg nofun, List.nil_append,
          List.count_append, count_underscore_lowercase,
          count_underscore_spell, ← Nat.add_assoc, ← List.count_append]
        rfl
  rw [normalize, Text.lowercased, String.toList_ofList, String.toList_ofList]
  exact ⟨filter_spell none _, head?_spell_eq_underscore_iff _,
    getLast?_spell_eq_underscore_iff none _, doubled_spell none _, counted⟩

end StorageName
end TerseSchema
