/-!
# Cutting texts at bytes

A text is written with one to four bytes for each character.  It can be cut
behind a number of bytes only if the cut falls between two characters or at an
end: a text has no part behind more bytes than it has, and none that begins
inside a character.
-/

namespace TerseSchema
namespace Text

/-- The first byte of a text, if it has one. -/
def firstByte? (text : String) : Option UInt8 :=
  text.toByteArray.data[0]?

/-- The number of bytes in front of the first character with a property, if
there is one. -/
def findByte? (isFound : Char → Bool) : List Char → Option Nat
  | [] => none
  | character :: rest =>
      if isFound character then some 0
      else (findByte? isFound rest).map (character.utf8Size + ·)

/-- The two parts of a text that is cut behind a number of bytes.  There are none
if the cut falls outside the text or inside a character. -/
def cut? (text : String) (count : Nat) : Option (String × String) :=
  if valid : String.Pos.Raw.IsValid text ⟨count⟩ then
    let position := text.pos ⟨count⟩ valid
    some ((text.sliceTo position).copy, (text.sliceFrom position).copy)
  else none

/-- A text is cut into two parts exactly if it is made of them and the first one
has the given number of bytes. -/
theorem cut?_eq_some_iff (text : String) (count : Nat) (front rest : String) :
    cut? text count = some (front, rest) ↔
      text = front ++ rest ∧ front.utf8ByteSize = count := by
  constructor
  · intro isCut
    unfold cut? at isCut
    split at isCut
    · rename_i valid
      have splits := (text.pos ⟨count⟩ valid).splits
      obtain ⟨isFront, isRest⟩ := Prod.mk.inj (Option.some.inj isCut)
      rw [isFront, isRest] at splits
      exact ⟨splits.eq_append,
        (congrArg String.Pos.Raw.byteIdx splits.offset_eq_rawEndPos).symm⟩
    · contradiction
  · rintro ⟨rfl, rfl⟩
    have valid : String.Pos.Raw.IsValid (front ++ rest)
        ⟨front.utf8ByteSize⟩ :=
      String.Pos.Raw.isValid_iff_exists_append.mpr ⟨front, rest, rfl, rfl⟩
    have splits : ((front ++ rest).pos ⟨front.utf8ByteSize⟩ valid).Splits
        front rest := ⟨rfl, rfl⟩
    unfold cut?
    rw [dif_pos valid]
    dsimp only
    rw [splits.copy_sliceTo_eq, splits.copy_sliceFrom_eq]

/-- The first character of a text can be cut off. -/
theorem cut?_cons (first : Char) (rest : List Char) :
    cut? (String.ofList (first :: rest)) first.utf8Size =
      some (String.singleton first, String.ofList rest) := by
  rw [cut?_eq_some_iff, String.ofList_cons, String.utf8ByteSize_singleton]
  exact ⟨rfl, rfl⟩

/-- A cut can fall inside a character or outside the text. -/
example : cut? "é" 1 = none ∧ cut? "é" 2 = some ("é", "") ∧
    cut? "é" 3 = none := by decide

/-! ## First bytes -/

/-- A text starts with the bytes of its first character. -/
theorem firstByte?_cons (first : Char) (rest : List Char) :
    firstByte? (String.ofList (first :: rest)) =
      (String.utf8EncodeChar first).head? := by
  have nonempty : 0 < (String.utf8EncodeChar first).length := by
    rw [String.length_utf8EncodeChar]
    exact first.utf8Size_pos
  rw [firstByte?, String.toByteArray_ofList, List.utf8Encode,
    List.data_toByteArray, List.flatMap_cons, List.getElem?_toArray,
    List.getElem?_append_left nonempty, List.head?_eq_getElem?]

/-- No character but an ASCII character itself is written with the code of that
one as its first byte. -/
theorem firstByte?_eq_iff {sign first : Char} (rest : List Char)
    (ascii : sign.toNat < 128) :
    firstByte? (String.ofList (first :: rest)) = some sign.toUInt8 ↔
      first = sign := by
  have signCode : sign.toUInt8.toNat = sign.toNat := by
    rw [Char.toUInt8, UInt32.toNat_toUInt8]
    exact Nat.mod_eq_of_lt (Nat.lt_trans ascii (by decide))
  rw [firstByte?_cons]
  constructor
  · intro same
    have lead (code : Nat) (others : List UInt8)
        (encoded : String.utf8EncodeChar first = UInt8.ofNat code :: others) :
        code % 256 = sign.toNat := by
      rw [encoded] at same
      rw [← signCode, ← Option.some.inj same]
      exact UInt8.toNat_ofNat
    have firstCode : first.val.toNat = first.toNat := rfl
    apply Char.toNat_inj.mp
    -- The first of several bytes is greater than any ASCII code.
    unfold String.utf8EncodeChar at lead
    dsimp only at lead
    repeat' split at lead
    all_goals
      have value := lead _ _ rfl
      omega
  · rintro rfl
    rw [String.utf8EncodeChar_eq_singleton]
    · rfl
    · rw [Char.utf8Size_eq_one_iff, UInt32.le_iff_toNat_le]
      exact Nat.le_of_lt_succ ascii

/-! ## Runs of characters -/

/-- The bytes in front of the first character without a property, or all bytes if
each character has it, are those of the run of characters with the property. -/
theorem findByte?_eq_utf8ByteSize (isInside : Char → Bool)
    (characters : List Char) :
    (findByte? (fun character => !isInside character) characters).getD
        (String.ofList characters).utf8ByteSize =
      (String.ofList (characters.takeWhile isInside)).utf8ByteSize := by
  induction characters with
  | nil => rfl
  | cons character rest inductionHypothesis =>
      cases inside : isInside character with
      | false => simp [findByte?, inside]
      | true =>
          rw [List.takeWhile_cons_of_pos inside, String.ofList_cons,
            String.ofList_cons, String.utf8ByteSize_append,
            String.utf8ByteSize_append, String.utf8ByteSize_singleton,
            ← inductionHypothesis]
          cases found :
              findByte? (fun character => !isInside character) rest with
          | none => simp [findByte?, inside, found]
          | some count => simp [findByte?, inside, found]

/-- The run of characters with a property at the start of a text can be cut
off. -/
theorem cut?_takeWhile (isInside : Char → Bool) (characters : List Char) :
    cut? (String.ofList characters)
        (String.ofList (characters.takeWhile isInside)).utf8ByteSize =
      some (String.ofList (characters.takeWhile isInside),
        String.ofList (characters.dropWhile isInside)) := by
  rw [cut?_eq_some_iff, ← String.ofList_append,
    List.takeWhile_append_dropWhile]
  exact ⟨rfl, rfl⟩

end Text
end TerseSchema
