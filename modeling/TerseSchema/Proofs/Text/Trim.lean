import TerseSchema.Text.Blank
import Mathlib.Data.List.TakeWhile

/-!
# Trimmed texts

Trimming finds the one part of a text that has nothing but blanks around it and
no blank at its own ends.
-/

namespace TerseSchema
namespace Text

/-- What trimming promises: blanks are taken away at both ends and none is left
there. -/
structure IsTrimmed (characters core : List Char) : Prop where
  blanksAround : ∃ front back, characters = front ++ (core ++ back) ∧
    (∀ character ∈ front, isBlank character = true) ∧
    ∀ character ∈ back, isBlank character = true
  noBlankFirst : ∀ character ∈ core.head?, isBlank character = false
  noBlankLast : ∀ character ∈ core.getLast?, isBlank character = false

theorem trimStart_append_of_blank {front : List Char}
    (blank : ∀ character ∈ front, isBlank character = true)
    (rest : List Char) : trimStart (front ++ rest) = trimStart rest :=
  List.dropWhile_append_of_pos blank

theorem trimStart_eq_self {characters : List Char}
    (noBlank : ∀ character ∈ characters.head?, isBlank character = false) :
    trimStart characters = characters := by
  cases characters with
  | nil => rfl
  | cons first rest =>
      exact List.dropWhile_cons_of_neg (by simpa using noBlank first rfl)

/-- No blank is left in front. -/
theorem isBlank_head?_trimStart {characters : List Char} {first : Char}
    (leading : first ∈ (trimStart characters).head?) :
    isBlank first = false := by
  have stopped := List.head?_dropWhile_not isBlank characters
  rw [trimStart, Option.mem_def] at leading
  rw [leading] at stopped
  exact stopped

theorem takeWhile_append_trimStart (characters : List Char) :
    characters.takeWhile isBlank ++ trimStart characters = characters :=
  List.takeWhile_append_dropWhile

/-- Trimming takes blanks away at the end of what is left of a text. -/
theorem trimCharacters_append_blanks (characters : List Char) :
    trimCharacters characters ++
        ((trimStart characters).reverse.takeWhile isBlank).reverse =
      trimStart characters := by
  rw [trimCharacters, ← List.reverse_append, takeWhile_append_trimStart,
    List.reverse_reverse]

theorem trimCharacters_isTrimmed (characters : List Char) :
    IsTrimmed characters (trimCharacters characters) where
  blanksAround := by
    refine ⟨characters.takeWhile isBlank,
      ((trimStart characters).reverse.takeWhile isBlank).reverse, ?_, ?_, ?_⟩
    · rw [trimCharacters_append_blanks, takeWhile_append_trimStart]
    · exact fun _ member => List.mem_takeWhile_imp member
    · exact fun _ member => List.mem_takeWhile_imp (List.mem_reverse.mp member)
  noBlankFirst first leading := by
    have leadingRest : first ∈ (trimStart characters).head? := by
      rw [← trimCharacters_append_blanks, List.head?_append,
        Option.mem_def.mp leading]
      rfl
    exact isBlank_head?_trimStart leadingRest
  noBlankLast last trailing := by
    rw [trimCharacters, List.getLast?_reverse] at trailing
    exact isBlank_head?_trimStart trailing

/-- Trimming gives the only part of a text that is as promised. -/
theorem isTrimmed_iff (characters core : List Char) :
    IsTrimmed characters core ↔ trimCharacters characters = core := by
  constructor
  · rintro ⟨⟨front, back, rfl, blankFront, blankBack⟩, first, last⟩
    have blankReverse : ∀ character ∈ back.reverse,
        isBlank character = true :=
      fun character member => blankBack character (List.mem_reverse.mp member)
    rw [trimCharacters, trimStart_append_of_blank blankFront]
    cases core with
    | nil =>
        have nothing : trimStart back = [] := by
          have all := trimStart_append_of_blank blankBack []
          rwa [List.append_nil] at all
        rw [List.nil_append, nothing]
        rfl
    | cons character rest =>
        have kept : trimStart (character :: rest ++ back) =
            character :: rest ++ back := trimStart_eq_self first
        rw [kept, List.reverse_append, trimStart_append_of_blank blankReverse,
          trimStart_eq_self (by rwa [List.head?_reverse]),
          List.reverse_reverse]
  · rintro rfl
    exact trimCharacters_isTrimmed characters

end Text
end TerseSchema
