import TerseSchema.Proofs.Compilation.FixedPoint
import TerseSchema.Proofs.Compilation.PrimaryKey
import TerseSchema.Proofs.Compilation.Warnings

/-!
# What a strict compilation vouches for

Warnings are about the slots, but what they rule out is ruled out for the
stored columns too, although options may rename a column and replace its type,
and later descriptors may replace it as a whole.  A column has a name, its type
is understood, and a size that comes from the second slot is a length.

The one keyword without a type is the bare `Boolean`.  It is one of the two
things that keep an accepted schema from being read back.
-/

namespace TerseSchema

namespace TypeSpec

/-- Whether a keyword without an abstract type is the bare one of Boolean
columns. -/
def IsUnderstood (spec : TypeSpec) : Prop :=
  ∀ keyword size, spec = .unresolved keyword size →
    keyword = TypeKeyword.booleanKeyword ∧ size = none

/-- Whether the size of an abstract type, if it has one, is a number and at
least one. -/
def HasLength (spec : TypeSpec) : Prop :=
  ∀ base size, spec = .sized base size →
    ∃ length : Length, size = .length length ∧ 1 ≤ length.value

theorem isUnderstood_of_resolved {spec : TypeSpec}
    (resolved : spec.isUnresolved = false) : spec.IsUnderstood := by
  rintro keyword size rfl
  contradiction

end TypeSpec

/-! ## Sound descriptors -/

namespace Positional

variable {slots : List Json} (sound : IsSound slots)
include sound

/-- A sound text without an abstract type is the bare keyword of Boolean
columns. -/
theorem isUnderstood_ofKeyword_of_isSound {text : String}
    (given : typeText? slots = some text) :
    (TypeSpec.ofKeyword (.parse text)).IsUnderstood := by
  intro keyword size unresolved
  unfold TypeSpec.ofKeyword at unresolved
  split at unresolved
  · contradiction
  · contradiction
  · rename_i absent
    obtain ⟨rfl, rfl⟩ := TypeSpec.unresolved.inj unresolved
    rw [keyword_parse] at absent
    have unknown :=
      (isNone_ofKeyword?_iff _).mp (Option.isNone_iff_eq_none.mpr absent)
    have bare : text = "Boolean" := by
      by_contra other
      exact sound.known text given ⟨unknown, other⟩
    subst bare
    decide

/-- A sound text with a size has a length. -/
theorem hasLength_ofKeyword_of_isSound {text : String}
    (given : typeText? slots = some text) :
    (TypeSpec.ofKeyword (.parse text)).HasLength := by
  intro base size sized
  unfold TypeSpec.ofKeyword at sized
  split at sized
  · contradiction
  · rename_i written
    obtain ⟨-, rfl⟩ := TypeSpec.sized.inj sized
    rw [size_parse] at written
    obtain ⟨part, found, rfl⟩ := Option.map_eq_some_iff.mp written
    cases read : Size.lenient part with
    | length value => exact ⟨value, rfl, value.positive⟩
    | raw kept =>
        have numeric := sound.numeric text part given found
        exact absurd numeric ((lenient_eq_raw_iff _ _).mp read).1
  · contradiction

/-- The type that a sound second slot gives is understood, and its size is a
length. -/
theorem slotType_of_isSound {spec : TypeSpec}
    (given : slotType slots = some spec) :
    spec.IsUnderstood ∧ spec.HasLength := by
  rcases slotType_cases given with ⟨text, slot, rfl⟩ | ⟨value, rfl, -⟩
  · have typed : typeText? slots = some text := by
      rw [typeText?, slot]
      rfl
    exact ⟨isUnderstood_ofKeyword_of_isSound sound typed,
      hasLength_ofKeyword_of_isSound sound typed⟩
  · exact ⟨nofun, nofun⟩

end Positional

namespace CompiledColumn

variable {options : CompileOptions} {index : Nat} {descriptor : Descriptor}
  (sound : Positional.IsSound descriptor.values) {spec : TypeSpec}
  (given : (ofDescriptor options index descriptor).column.columnType =
    some spec)
include sound given

/-- A sound descriptor gives a type that is understood, be it by its options:
what these state is never an unresolved keyword. -/
theorem isUnderstood_of_isSound : spec.IsUnderstood := by
  rw [columnType_ofDescriptor] at given
  cases stated : (Positional.options descriptor.values).get? "type" with
  | none =>
      rw [stated, Option.elim_none] at given
      exact (Positional.slotType_of_isSound sound given).1
  | some value =>
      rw [stated, Option.elim_some, Column.statedType] at given
      split at given
      · contradiction
      · obtain rfl := Option.some.inj given
        exact TypeSpec.isUnderstood_of_resolved
          (TypeSpec.isUnresolved_ofJson value)

/-- A sound descriptor whose options state no type gives a size that is a
length. -/
theorem hasLength_of_isSound
    (unstated : "type" ∉ Positional.optionKeys descriptor.values) :
    spec.HasLength := by
  rw [columnType_ofDescriptor,
    Positional.get?_options_eq_none unstated (by decide)] at given
  exact (Positional.slotType_of_isSound sound given).2

end CompiledColumn

/-! ## Accepted schemas -/

namespace Column

/-- A column whose type is understood is read back unless the type is the bare
keyword of Boolean columns or the default value is the text of the marker. -/
theorem isFaithful_iff_of_isUnderstood {column : Column}
    (understood : ∀ spec, column.columnType = some spec → spec.IsUnderstood) :
    column.IsFaithful ↔
      column.columnType ≠ some (.unresolved TypeKeyword.booleanKeyword none) ∧
        column.defaultValue ≠
          some (.literal (.string DefaultValue.marker)) := by
  apply and_congr_left
  intro _
  constructor
  · intro resolved bare
    exact absurd (resolved _ bare) (by decide)
  · intro notBare spec given
    cases spec with
    | unresolved keyword size =>
        obtain ⟨rfl, rfl⟩ := understood _ given keyword size rfl
        exact absurd given notBare
    | plain _ | sized _ _ | direct _ => rfl

end Column

namespace Compilation

/-- Whether a column is the one of a descriptor: the descriptor has its name,
and no later one has it. -/
def IsSource (options : CompileOptions) (descriptors : List Descriptor)
    (name : String) (column : Column) (descriptor : Descriptor) : Prop :=
  ∃ front back, descriptors = front ++ descriptor :: back ∧
    Positional.name descriptor.values = name ∧
    (∀ later ∈ back, Positional.name later.values ≠ name) ∧
    column =
      (CompiledColumn.ofDescriptor options front.length descriptor).column

variable {options : CompileOptions} {descriptors : List Descriptor}
  {name : String} {column : Column}

theorem exists_isSource
    (stored : (compile options descriptors).get? name = some column) :
    ∃ descriptor ∈ descriptors,
      IsSource options descriptors name column descriptor := by
  obtain ⟨front, descriptor, back, rfl, named, last, source⟩ :=
    (get?_compile_eq_some_iff _ _ _ _).mp stored
  exact ⟨descriptor, List.mem_append_right _ List.mem_cons_self, front, back,
    rfl, named, last, source⟩

section
variable (sound : ∀ descriptor ∈ descriptors,
  Positional.IsSound descriptor.values)
include sound

theorem empty_not_mem_names : "" ∉ (compile options descriptors).names := by
  intro unnamed
  obtain ⟨column, stored⟩ := (OrderedMap.mem_keys_iff _ _).mp unnamed
  obtain ⟨descriptor, member, _, _, _, named, _⟩ := exists_isSource stored
  exact (sound descriptor member).named named

variable (stored : (compile options descriptors).get? name = some column)
include stored

theorem isUnderstood_of_stored {spec : TypeSpec}
    (given : column.columnType = some spec) : spec.IsUnderstood := by
  obtain ⟨descriptor, member, _, _, _, _, _, rfl⟩ := exists_isSource stored
  exact CompiledColumn.isUnderstood_of_isSound (sound descriptor member) given

/-- Unless options state the type of a stored column, its size is a length. -/
theorem exists_isSource_hasLength :
    ∃ descriptor, IsSource options descriptors name column descriptor ∧
      ("type" ∉ Positional.optionKeys descriptor.values →
        ∀ spec, column.columnType = some spec → spec.HasLength) := by
  obtain ⟨descriptor, member, source⟩ := exists_isSource stored
  refine ⟨descriptor, source, fun unstated spec given => ?_⟩
  obtain ⟨_, _, _, _, _, rfl⟩ := source
  exact CompiledColumn.hasLength_of_isSound (sound descriptor member) given
    unstated

end
end Compilation

/-- A schema that a strict compilation accepts has no column without a name.
The type of each column is understood, and the size of an abstract type is a
length of at least one unless the options of the descriptor that the column
comes from state the type.  The JSON value of the schema is read back as the
schema, and as the columns of a table, exactly if no column has the bare
keyword of Boolean columns as its type or the text of the marker as its default
value. -/
theorem compileStrict_sound {options : CompileOptions}
    {descriptors : List Descriptor} {schema : Schema}
    (accepted : compileStrict options descriptors = .ok schema) :
    "" ∉ schema.names ∧
      (∀ name column, schema.get? name = some column →
        (∀ spec, column.columnType = some spec → spec.IsUnderstood) ∧
          ∃ descriptor,
            Compilation.IsSource options descriptors name column descriptor ∧
            ("type" ∉ Positional.optionKeys descriptor.values →
              ∀ spec, column.columnType = some spec → spec.HasLength)) ∧
      ∃ copy, Schema.ofJson? schema.toJson = some copy ∧
        TableColumns.ofJson schema.toJson = .structured copy ∧
        (copy = schema ↔ ∀ name column, schema.get? name = some column →
          column.columnType ≠
              some (.unresolved TypeKeyword.booleanKeyword none) ∧
            column.defaultValue ≠
              some (.literal (.string DefaultValue.marker))) := by
  obtain ⟨sound, rfl⟩ := (compileStrict_eq_ok_iff _ _ _).mp accepted
  have settled : ∀ entry ∈ (compile options descriptors).toList,
      entry.2.IsSettled := fun entry member => isSettled_of_mem_compile member
  refine ⟨Compilation.empty_not_mem_names sound, ?_,
    (compile options descriptors).readBack, Schema.ofJson?_toJson settled,
    Schema.tableColumns_ofJson_toJson settled,
    (Schema.readBack_eq_iff settled).trans ?_⟩
  · intro name column stored
    exact ⟨fun _ => Compilation.isUnderstood_of_stored sound stored,
      Compilation.exists_isSource_hasLength sound stored⟩
  · have faithful (name : String) (column : Column)
        (stored : (compile options descriptors).get? name = some column) :=
      Column.isFaithful_iff_of_isUnderstood fun _ =>
        Compilation.isUnderstood_of_stored sound stored
    constructor
    · intro every name column stored
      have member := (OrderedMap.get?_eq_some_iff _ _ _).mp stored
      exact (faithful name column stored).mp (every _ member)
    · intro every entry member
      have stored := (OrderedMap.get?_eq_some_iff _ _ _).mpr member
      exact (faithful entry.1 entry.2 stored).mpr (every _ _ stored)

/-- A size that options state need not be a length, and a bare keyword of
Boolean columns is accepted though it is not read back. -/
theorem compileStrict_of_stated_type :
    let descriptors := [Descriptor.inline "id, u",
      .slots [.string "tag", .string "s= 64x",
        .object [("name", .string "label")]],
      .slots [.string "note", .string "s=8",
        .object [("type", .string "STRING(max)")]],
      .slots [.string "flag", .string "Boolean", .bool true]]
    compileStrict .standard descriptors = .ok (compile .standard descriptors) ∧
      "" ∉ (compile .standard descriptors).names ∧
      (∃ column, (compile .standard descriptors).get? "note" = some column ∧
        column.columnType = some (.sized .string (.raw "max"))) ∧
      ∃ copy, Schema.ofJson? (compile .standard descriptors).toJson =
          some copy ∧
        copy ≠ compile .standard descriptors := by
  intro descriptors
  have accepted : compileStrict .standard descriptors =
      .ok (compile .standard descriptors) := rfl
  obtain ⟨named, -, copy, read, -, same⟩ := compileStrict_sound accepted
  refine ⟨accepted, named, ⟨_, rfl, rfl⟩, copy, read, fun equal => ?_⟩
  have flag : (compile .standard descriptors).get? "flag" = some _ := rfl
  exact (same.mp equal "flag" _ flag).1 rfl

end TerseSchema
