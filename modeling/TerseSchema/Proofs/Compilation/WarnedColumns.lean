import TerseSchema.Proofs.Compilation.Warnings

/-!
# The columns that warnings name

A warning about a type names the column by the text in the first slot, because
it arises before the options are read.  The options may rename the column, and
then the schema has it under the other name.  The name in the warning is that
of a stored column all the same if the options do not rename the column, or if
another descriptor happens to end up with this name.
-/

namespace TerseSchema

/-- The column that a warning about a type names. -/
def Warning.column? : Warning → Option String
  | .emptyName _ => none
  | .unresolvedType column _ => some column
  | .nonNumericSize column _ => some column

theorem Warning.subject_eq_of_column? {warning : Warning} {column : String}
    (named : warning.column? = some column) : warning.subject = column := by
  cases warning with
  | emptyName index => contradiction
  | unresolvedType other keyword => exact Option.some.inj named
  | nonNumericSize other size => exact Option.some.inj named

namespace Positional

variable (slots : List Json)

/-- Whether the second slot holds a text with an unknown keyword or with a size
that is no length. -/
def HasTypeDefect : Prop :=
  ∃ text, typeText? slots = some text ∧
    (IsUnknown text ∨
      ∃ size, size? text = some size ∧ ¬StartsWithLength size)

/-- Whether the options give a column another name than the first slot does. -/
def IsRenamed : Prop :=
  ∃ value, (options slots).get? "name" = some value ∧
    value.isNull = false ∧ value.keyText ≠ slotName slots

/-- There are warnings about the type exactly if it has a defect. -/
theorem exists_mem_typeWarnings_iff :
    (∃ warning, warning ∈ typeWarnings slots) ↔ HasTypeDefect slots := by
  unfold typeWarnings HasTypeDefect
  cases typeText? slots with
  | none => simp
  | some text =>
      by_cases unknown : IsUnknown text
      · simp [unknown]
      · cases sized : size? text with
        | none => simp [unknown, sized]
        | some size => by_cases numeric : StartsWithLength size <;>
            simp [unknown, sized, numeric]

/-- A warning about the type names the column by the first slot. -/
theorem column?_of_mem_typeWarnings {slots : List Json} {warning : Warning}
    (member : warning ∈ typeWarnings slots) :
    warning.column? = some (slotName slots) := by
  unfold typeWarnings at member
  split at member
  · contradiction
  · rcases List.mem_append.mp member with unresolved | nonNumeric
    · split at unresolved
      · rw [List.mem_singleton.mp unresolved]
        rfl
      · contradiction
    · split at nonNumeric
      · contradiction
      · split at nonNumeric
        · contradiction
        · rw [List.mem_singleton.mp nonNumeric]
          rfl

/-- Of the warnings about a descriptor, those about the type name a column. -/
theorem mem_warnings_and_column?_iff {slots : List Json} (index : Nat)
    {warning : Warning} {column : String} :
    (warning ∈ warnings slots index ∧ warning.column? = some column) ↔
      warning ∈ typeWarnings slots ∧ column = slotName slots := by
  constructor
  · rintro ⟨member, named⟩
    rcases List.mem_append.mp member with typed | unnamed
    · have first := column?_of_mem_typeWarnings typed
      exact ⟨typed, Option.some.inj (named.symm.trans first)⟩
    · split at unnamed
      · rw [List.mem_singleton.mp unnamed] at named
        contradiction
      · contradiction
  · rintro ⟨typed, rfl⟩
    exact ⟨List.mem_append_left _ typed, column?_of_mem_typeWarnings typed⟩

/-- A column is stored under the name in its first slot exactly if the options
do not rename it. -/
theorem name_eq_slotName_iff : name slots = slotName slots ↔ ¬IsRenamed slots := by
  unfold name IsRenamed
  split
  · rename_i value stated
    cases null : value.isNull <;> simp [stated, null]
  · rename_i absent
    simp [absent]

end Positional

namespace Compilation

variable (options : CompileOptions) (descriptors : List Descriptor)

/-- The warnings that name a column are those about the types of descriptors,
and they name it by the first slot. -/
theorem mem_warnings_and_column?_iff {warning : Warning} {column : String} :
    (warning ∈ (run options descriptors).warnings ∧
        warning.column? = some column) ↔
      ∃ descriptor ∈ descriptors,
        warning ∈ Positional.typeWarnings descriptor.values ∧
          column = Positional.slotName descriptor.values := by
  rw [warnings_run, shownWarnings, List.mem_flatten]
  constructor
  · rintro ⟨⟨each, shown, member⟩, named⟩
    obtain ⟨index, inside, rfl⟩ := List.mem_mapIdx.mp shown
    exact ⟨descriptors[index], List.getElem_mem inside,
      (Positional.mem_warnings_and_column?_iff index).mp ⟨member, named⟩⟩
  · rintro ⟨descriptor, given, typed⟩
    obtain ⟨index, inside, rfl⟩ := List.mem_iff_getElem.mp given
    obtain ⟨member, named⟩ :=
      (Positional.mem_warnings_and_column?_iff index).mpr typed
    exact ⟨⟨_, List.mem_mapIdx.mpr ⟨index, inside, rfl⟩, member⟩, named⟩

theorem mem_names_compile_iff (column : String) :
    column ∈ (compile options descriptors).names ↔
      ∃ descriptor ∈ descriptors,
        Positional.name descriptor.values = column := by
  rw [names_compile, List.mem_eraseDups, List.mem_map]

/-- The name in the first slot of a descriptor is that of a stored column unless
the options rename the column. -/
theorem slotName_mem_names_or_isRenamed {descriptor : Descriptor}
    (given : descriptor ∈ descriptors) :
    Positional.slotName descriptor.values ∈
        (compile options descriptors).names ∨
      Positional.IsRenamed descriptor.values := by
  by_cases renamed : Positional.IsRenamed descriptor.values
  · exact Or.inr renamed
  · have kept := (Positional.name_eq_slotName_iff _).mpr renamed
    exact Or.inl
      ((mem_names_compile_iff _ _ _).mpr ⟨descriptor, given, kept⟩)

end Compilation

/-- Each warning about a type names the column by the first slot of a descriptor
whose column is stored, and this is the name of a stored column unless the
options rename the column.

All warnings about types name stored columns exactly if the name in the first
slot of every descriptor with a defective type that is renamed is the final name
of some descriptor.  In a strict compilation the error is about the column that
the warning names. -/
theorem typeWarnings_name_stored_columns_iff (options : CompileOptions)
    (descriptors : List Descriptor) :
    (∀ warning ∈ (Compilation.run options descriptors).warnings,
      ∀ column, warning.column? = some column →
        ∃ descriptor ∈ descriptors,
          column = Positional.slotName descriptor.values ∧
          Positional.HasTypeDefect descriptor.values ∧
          Positional.name descriptor.values ∈
            (compile options descriptors).names ∧
          (column ∈ (compile options descriptors).names ∨
            Positional.IsRenamed descriptor.values)) ∧
    ((∀ warning ∈ (Compilation.run options descriptors).warnings,
      ∀ column, warning.column? = some column →
        column ∈ (compile options descriptors).names) ↔
      ∀ descriptor ∈ descriptors,
        Positional.HasTypeDefect descriptor.values →
        Positional.IsRenamed descriptor.values →
        ∃ other ∈ descriptors, Positional.name other.values =
          Positional.slotName descriptor.values) ∧
    (∀ warning, compileStrict options descriptors = .error warning →
      warning ∈ (Compilation.run options descriptors).warnings ∧
        ∀ column, warning.column? = some column →
          warning.subject = column) := by
  have defect {descriptor : Descriptor} {warning : Warning}
      (typed : warning ∈ Positional.typeWarnings descriptor.values) :
      Positional.HasTypeDefect descriptor.values :=
    (Positional.exists_mem_typeWarnings_iff _).mp ⟨warning, typed⟩
  refine ⟨?_, ⟨?_, ?_⟩, ?_⟩
  · intro warning member column named
    obtain ⟨descriptor, given, typed, rfl⟩ :=
      (Compilation.mem_warnings_and_column?_iff _ _).mp ⟨member, named⟩
    exact ⟨descriptor, given, rfl, defect typed,
      (Compilation.mem_names_compile_iff _ _ _).mpr ⟨descriptor, given, rfl⟩,
      Compilation.slotName_mem_names_or_isRenamed _ _ given⟩
  · intro every descriptor given defective _
    obtain ⟨warning, typed⟩ :=
      (Positional.exists_mem_typeWarnings_iff _).mpr defective
    obtain ⟨member, named⟩ :=
      (Compilation.mem_warnings_and_column?_iff options descriptors).mpr
        ⟨descriptor, given, typed, rfl⟩
    exact (Compilation.mem_names_compile_iff _ _ _).mp
      (every warning member _ named)
  -- Only the name in the first slot of a renamed column can be missing.
  · intro every warning member column named
    obtain ⟨descriptor, given, typed, rfl⟩ :=
      (Compilation.mem_warnings_and_column?_iff _ _).mp ⟨member, named⟩
    rcases Compilation.slotName_mem_names_or_isRenamed options _ given with
      stored | renamed
    · exact stored
    · exact (Compilation.mem_names_compile_iff _ _ _).mpr
        (every descriptor given (defect typed) renamed)
  · intro warning rejected
    have first := (compileStrict_eq_error_iff _ _ _).mp rejected
    rw [← Compilation.head?_warnings_run_iff options] at first
    exact ⟨List.mem_of_head? first, fun _ => Warning.subject_eq_of_column?⟩

/-- A warning about the type of a renamed column, and the error that a strict
compilation makes of it, name a column that the schema does not have. -/
theorem typeWarning_names_no_column :
    let descriptors := [Descriptor.slots [.string "tag", .string "mystery",
      .object [("name", .string "label")]]]
    (Compilation.run .standard descriptors).warnings =
        [.unresolvedType "tag" "mystery"] ∧
      compileStrict .standard descriptors =
        .error (.unresolvedType "tag" "mystery") ∧
      (Warning.unresolvedType "tag" "mystery").subject = "tag" ∧
      (compile .standard descriptors).names = ["label"] :=
  ⟨rfl, rfl, rfl, rfl⟩

end TerseSchema
