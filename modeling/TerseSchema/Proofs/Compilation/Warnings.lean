import TerseSchema.Compilation.File
import TerseSchema.Proofs.Column.LeadingNumber
import TerseSchema.Proofs.Compilation.Append

/-!
# Warnings

Which warnings a compilation gives can be read off the slots.  A descriptor has
up to three defects: the keyword of its second slot is unknown, the size in
that slot is no length, and the column ends up without a name.  The warnings
are about the defects of the descriptors, in this order for each of them.

A strict compilation gives the same schema as any other if no descriptor has a
defect, and otherwise the warning about the first one.
-/

namespace TerseSchema

/-! ## Defects of a descriptor -/

namespace Positional

/-- The parts of a text between its equals signs. -/
def parts (text : String) : List String :=
  (text.toList.splitOn '=').map String.ofList

/-- The part of a text before the first equals sign. -/
def keyword (text : String) : String :=
  (parts text).headD ""

/-- The part of a text between the first equals sign and the second one or the
end. -/
def size? (text : String) : Option String :=
  (parts text)[1]?

/-- Whether a text is neither in the table of keywords nor `Boolean`. -/
def IsUnknown (text : String) : Prop :=
  (∀ columnType : ColumnType, columnType.keyword? ≠ some (keyword text)) ∧
    text ≠ "Boolean"

/-- Whether a size starts with a positive number of at most 64 bits. -/
def StartsWithLength (size : String) : Prop :=
  ∃ number : LeadingNumber size.toList,
    1 ≤ number.value ∧ number.value ≤ 18446744073709551615

theorem isNone_ofKeyword?_iff (keyword : String) :
    (ColumnType.ofKeyword? keyword).isNone = true ↔
      ∀ columnType : ColumnType, columnType.keyword? ≠ some keyword := by
  rw [Option.isNone_iff_eq_none, ColumnType.ofKeyword?, List.find?_eq_none]
  constructor
  · exact fun absent columnType => by
      simpa using absent columnType (ColumnType.mem_all columnType)
  · exact fun absent columnType _ => by simpa using absent columnType

theorem isSome_atStart?_iff (size : String) :
    (Length.atStart? size.toList).isSome = true ↔ StartsWithLength size :=
  Length.isSome_atStart?_iff size.toList

instance (text : String) : Decidable (IsUnknown text) :=
  decidable_of_iff _
    (and_congr_left' (isNone_ofKeyword?_iff (keyword text)))

instance (size : String) : Decidable (StartsWithLength size) :=
  decidable_of_iff _ (isSome_atStart?_iff size)

variable (slots : List Json)

/-- The text in the second slot. -/
def typeText? : Option String :=
  (slot? slots 2).bind Json.text?

/-- The warnings about the type in the second slot. -/
def typeWarnings : List Warning :=
  match typeText? slots with
  | none => []
  | some text =>
      (if IsUnknown text then
        [.unresolvedType (slotName slots) (keyword text)] else []) ++
      match size? text with
      | none => []
      | some size =>
          if StartsWithLength size then []
          else [.nonNumericSize (slotName slots) size]

/-- The warnings about the descriptor at a place. -/
def warnings (index : Nat) : List Warning :=
  typeWarnings slots ++ if name slots = "" then [.emptyName index] else []

/-- A descriptor without defects. -/
structure IsSound : Prop where
  known : ∀ text, typeText? slots = some text → ¬IsUnknown text
  numeric : ∀ text size, typeText? slots = some text →
    size? text = some size → StartsWithLength size
  named : name slots ≠ ""

/-- A descriptor gives no warning exactly if it has no defect. -/
theorem warnings_eq_nil_iff (index : Nat) :
    warnings slots index = [] ↔ IsSound slots := by
  have named : (if name slots = "" then [Warning.emptyName index] else []) =
      [] ↔ name slots ≠ "" := by
    split <;> simp_all
  have typed : typeWarnings slots = [] ↔
      ∀ text, typeText? slots = some text → ¬IsUnknown text ∧
        ∀ size, size? text = some size → StartsWithLength size := by
    unfold typeWarnings
    cases typeText? slots with
    | none => simp
    | some text =>
        cases sized : size? text with
        | none => simp [sized]
        | some size => simp [sized]
  rw [warnings, List.append_eq_nil_iff, typed, named]
  constructor
  · rintro ⟨sound, isNamed⟩
    exact ⟨fun text given => (sound text given).1,
      fun text size given => (sound text given).2 size, isNamed⟩
  · rintro ⟨known, numeric, isNamed⟩
    exact ⟨fun text given => ⟨known text given,
      fun size => numeric text size given⟩, isNamed⟩

/-! ## The compiler warns of defects -/

/-- The first part ends at the first separator, and the other parts come after
it. -/
theorem splitOn_eq_takeWhile_cons (separator : Char)
    (characters : List Char) :
    characters.splitOn separator =
      characters.takeWhile (· != separator) ::
        match characters.dropWhile (· != separator) with
        | [] => []
        | _ :: rest => rest.splitOn separator := by
  have whole : characters.takeWhile (· != separator) ++
      characters.dropWhile (· != separator) = characters :=
    List.takeWhile_append_dropWhile
  have front : separator ∉ characters.takeWhile (· != separator) := by
    intro member
    simpa using List.mem_takeWhile_imp member
  have stopped := List.head?_dropWhile_not (· != separator) characters
  cases remaining : characters.dropWhile (· != separator) with
  | nil =>
      rw [remaining, List.append_nil] at whole
      rw [whole] at front ⊢
      exact List.splitOn_eq_singleton front
  | cons found rest =>
      rw [remaining] at whole stopped
      obtain rfl : found = separator := by simpa using stopped
      conv_lhs => rw [← whole]
      exact List.splitOn_append_cons_self_of_not_mem front rest

theorem keyword_parse (text : String) :
    (TypeKeyword.parse text).keyword = keyword text := by
  rw [keyword, parts, splitOn_eq_takeWhile_cons]
  rfl

theorem size_parse (text : String) :
    (TypeKeyword.parse text).size = (size? text).map Size.lenient := by
  have separator : (· != '=') = (!TypeKeyword.isSeparator ·) := rfl
  rw [size?, parts, splitOn_eq_takeWhile_cons, TypeKeyword.parse, separator]
  cases text.toList.dropWhile (!TypeKeyword.isSeparator ·) with
  | nil => rfl
  | cons found rest =>
      dsimp only
      rw [splitOn_eq_takeWhile_cons]
      rfl

/-- Only the text `Boolean` as a whole is the bare keyword. -/
theorem isBoolean_parse_iff (text : String) :
    (TypeKeyword.parse text).isBoolean = true ↔ text = "Boolean" := by
  constructor
  · intro bare
    simp only [TypeKeyword.isBoolean, TypeKeyword.namesBoolean,
      Bool.and_eq_true, beq_iff_eq, Option.isNone_iff_eq_none] at bare
    obtain ⟨named, unsized⟩ := bare
    exact (TypeKeyword.keyword_parse_of_unsized unsized).symm.trans named
  · rintro rfl
    decide

/-- A size is kept as a text exactly if it does not start with a length. -/
theorem lenient_eq_raw_iff (size text : String) :
    Size.lenient size = .raw text ↔ ¬StartsWithLength size ∧ size = text := by
  rw [← isSome_atStart?_iff, Size.lenient]
  cases Length.atStart? size.toList with
  | none => simp
  | some length => simp

/-- The second slot gives the warnings about the type. -/
theorem typeWarnings_classify (first second : Json) (rest : List Json) :
    CompiledColumn.typeWarnings (slotName (first :: second :: rest))
        (TypeSlot.classify second) =
      typeWarnings (first :: second :: rest) := by
  cases second with
  | string text =>
      have unknown : ((ColumnType.ofKeyword? (keyword text)).isNone &&
          !(TypeKeyword.parse text).isBoolean) = true ↔ IsUnknown text := by
        rw [Bool.and_eq_true, Bool.not_eq_true', Bool.eq_false_iff, ne_eq,
          isBoolean_parse_iff, isNone_ofKeyword?_iff]
        rfl
      have given : typeText? (first :: .string text :: rest) = some text := rfl
      unfold TypeSlot.classify CompiledColumn.typeWarnings typeWarnings
      rw [given]
      dsimp only
      rw [keyword_parse, size_parse]
      congr 1
      · simp only [unknown]
      · cases size? text with
        | none => rfl
        | some size =>
            by_cases numeric : StartsWithLength size
            · cases read : Size.lenient size with
              | length value => simp [read, numeric]
              | raw kept =>
                  exact absurd numeric ((lenient_eq_raw_iff _ _).mp read).1
            · have kept := (lenient_eq_raw_iff size size).mpr ⟨numeric, rfl⟩
              simp [kept, numeric]
  | null | bool _ | number _ | array _ | object _ =>
      unfold TypeSlot.classify
      dsimp only
      split <;> rfl

/-- The compiler warns of the defects that the slots show. -/
theorem warnings_ofDescriptor (options : CompileOptions) (index : Nat)
    (descriptor : Descriptor) :
    (CompiledColumn.ofDescriptor options index descriptor).warnings =
      warnings descriptor.values index := by
  have warned : (CompiledColumn.ofDescriptor options index
      descriptor).warnings =
      CompiledColumn.typeWarnings
          (CompiledColumn.nameAndField
            (NameSlot.classify (Cursor.pop ⟨descriptor.values⟩).1)).1
          (((Cursor.pop (Cursor.pop ⟨descriptor.values⟩).2).1.map
            TypeSlot.classify).getD .absent) ++
        if (CompiledColumn.ofDescriptor options index descriptor).name = "" then
          [.emptyName index] else [] := rfl
  rw [warned, CompiledColumn.name_ofDescriptor, warnings]
  congr 1
  generalize descriptor.values = slots
  have named := nameAndField_classify slots
  rcases slots with _ | ⟨first, _ | ⟨second, rest⟩⟩
  · rfl
  · rfl
  · simp only [List.head?_cons] at named
    simp only [Cursor.pop_cons, named, Option.map_some, Option.getD_some]
    exact typeWarnings_classify first second rest

end Positional

/-! ## Lists of descriptors -/

namespace Compilation

/-- The warnings that the slots of descriptors show, in order. -/
def shownWarnings (descriptors : List Descriptor) : List (List Warning) :=
  descriptors.mapIdx fun index descriptor =>
    Positional.warnings descriptor.values index

theorem warnings_run (options : CompileOptions)
    (descriptors : List Descriptor) :
    (run options descriptors).warnings =
      (shownWarnings descriptors).flatten := by
  simp only [run, columns, shownWarnings, List.flatMap_def,
    List.mapIdx_eq_zipIdx_map, List.map_map, Function.comp_def,
    Positional.warnings_ofDescriptor]

/-- Descriptors give no warnings exactly if they have no defects. -/
theorem forall_shownWarnings_eq_nil_iff (descriptors : List Descriptor) :
    (∀ each ∈ shownWarnings descriptors, each = []) ↔
      ∀ descriptor ∈ descriptors, Positional.IsSound descriptor.values := by
  constructor
  · intro silent descriptor member
    obtain ⟨index, inside, rfl⟩ := List.mem_iff_getElem.mp member
    exact (Positional.warnings_eq_nil_iff _ index).mp
      (silent _ (List.mem_mapIdx.mpr ⟨index, inside, rfl⟩))
  · intro sound each member
    obtain ⟨index, inside, rfl⟩ := List.mem_mapIdx.mp member
    exact (Positional.warnings_eq_nil_iff _ index).mpr
      (sound _ (List.getElem_mem inside))

/-- Whether a warning is the first one about the first descriptor that has a
defect. -/
def IsFirstWarning (descriptors : List Descriptor) (warning : Warning) :
    Prop :=
  ∃ front descriptor back, descriptors = front ++ descriptor :: back ∧
    (∀ earlier ∈ front, Positional.IsSound earlier.values) ∧
    (Positional.warnings descriptor.values front.length).head? = some warning

theorem head?_warnings_run_iff (options : CompileOptions)
    (descriptors : List Descriptor) (warning : Warning) :
    (run options descriptors).warnings.head? = some warning ↔
      IsFirstWarning descriptors warning := by
  rw [warnings_run, List.head?_flatten, List.findSome?_eq_some_iff]
  simp only [List.head?_eq_none_iff]
  constructor
  · rintro ⟨_, _, _, whole, first, silent⟩
    obtain ⟨front, descriptor, back, rfl, rfl, rfl, -⟩ :=
      mapIdx_eq_append_cons_iff.mp whole
    exact ⟨front, descriptor, back, rfl,
      (forall_shownWarnings_eq_nil_iff front).mp silent, first⟩
  · rintro ⟨front, descriptor, back, rfl, sound, first⟩
    exact ⟨_, _, _, mapIdx_eq_append_cons_iff.mpr
      ⟨front, descriptor, back, rfl, rfl, rfl, rfl⟩, first,
      (forall_shownWarnings_eq_nil_iff front).mpr sound⟩

end Compilation

/-- A strict compilation succeeds with the schema of any other exactly if no
descriptor has a defect. -/
theorem compileStrict_eq_ok_iff (options : CompileOptions)
    (descriptors : List Descriptor) (schema : Schema) :
    compileStrict options descriptors = .ok schema ↔
      (∀ descriptor ∈ descriptors, Positional.IsSound descriptor.values) ∧
        schema = compile options descriptors := by
  rw [← Compilation.forall_shownWarnings_eq_nil_iff,
    ← List.flatten_eq_nil_iff, ← Compilation.warnings_run options, compile,
    compileStrict]
  cases (Compilation.run options descriptors).warnings with
  | nil => simp [eq_comm]
  | cons warning others => simp

/-- A strict compilation fails with the first warning. -/
theorem compileStrict_eq_error_iff (options : CompileOptions)
    (descriptors : List Descriptor) (warning : Warning) :
    compileStrict options descriptors = .error warning ↔
      Compilation.IsFirstWarning descriptors warning := by
  rw [← Compilation.head?_warnings_run_iff options, compileStrict]
  cases (Compilation.run options descriptors).warnings with
  | nil => simp
  | cons first others => simp

/-- The warnings of a compilation are those that the slots show, descriptor by
descriptor, where a missing name is the one under which the column is stored.

A strict compilation, be it of descriptors or of the file that holds them,
gives the schema of any other exactly if no descriptor has a defect.  Otherwise
it fails with the first warning, which it words as an invalid descriptor of the
column that the warning is about. -/
theorem warnings_exact (options : CompileOptions)
    (descriptors : List Descriptor) :
    (Compilation.run options descriptors).warnings =
        (descriptors.mapIdx fun index descriptor =>
          Positional.warnings descriptor.values index).flatten ∧
      (∀ index descriptor,
        (CompiledColumn.ofDescriptor options index descriptor).name =
          Positional.name descriptor.values) ∧
      (∀ schema, compileStrict options descriptors = .ok schema ↔
        (∀ descriptor ∈ descriptors, Positional.IsSound descriptor.values) ∧
          schema = compile options descriptors) ∧
      (∀ warning, compileStrict options descriptors = .error warning ↔
        Compilation.IsFirstWarning descriptors warning) ∧
      ∀ path contents,
        DescriptorFile.descriptors path contents = .ok descriptors →
        (∀ schema,
          DescriptorFile.compile path contents options true = .ok schema ↔
            (∀ descriptor ∈ descriptors,
              Positional.IsSound descriptor.values) ∧
              schema = compile options descriptors) ∧
        ∀ error,
          DescriptorFile.compile path contents options true = .error error ↔
            ∃ warning, Compilation.IsFirstWarning descriptors warning ∧
              error = .rejected warning ∧
              error.message = "Invalid descriptor for column '" ++
                warning.subject ++ "': " ++ warning.message := by
  refine ⟨Compilation.warnings_run options descriptors,
    fun index descriptor =>
      CompiledColumn.name_ofDescriptor options index descriptor,
    compileStrict_eq_ok_iff options descriptors,
    compileStrict_eq_error_iff options descriptors, ?_⟩
  intro path contents read
  have strict : DescriptorFile.compile path contents options true =
      (compileStrict options descriptors).mapError .rejected := by
    unfold DescriptorFile.compile
    rw [read]
    rfl
  rw [strict]
  constructor
  · intro schema
    rw [← compileStrict_eq_ok_iff]
    cases compileStrict options descriptors <;> simp [Except.mapError]
  · intro error
    simp only [← compileStrict_eq_error_iff options]
    cases compileStrict options descriptors with
    | ok schema => simp [Except.mapError]
    | error warning =>
        constructor
        · intro failed
          obtain rfl : FileError.rejected warning = error :=
            Except.error.inj failed
          exact ⟨warning, rfl, rfl, rfl⟩
        · rintro ⟨_, rejected, rfl, -⟩
          rw [Except.error.inj rejected]
          rfl

end TerseSchema
