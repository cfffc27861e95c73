import TerseSchema.Proofs.Column.Respelling
import TerseSchema.Proofs.Compilation.RoundTrip

/-!
# Compiled schemas as fixed points of reading back

The JSON value of a compiled schema is read back and written again.  Each
column is written as before unless the second slot of its descriptor spells out
an abstract type with a padded length, and then the type that was read has the
length without padding.  What was written the second time never changes again.
-/

namespace TerseSchema

/-! ## Compiled types -/

namespace TypeSpec

theorem hasWrittenSize_ofKeyword_parse (text : String) :
    (ofKeyword (TypeKeyword.parse text)).HasWrittenSize := by
  intro size given
  unfold ofKeyword at given
  split at given
  · contradiction
  · rename_i written
    obtain rfl := Option.some.inj given
    exact TypeKeyword.isWritten_size_parse written
  · exact TypeKeyword.isWritten_size_parse given

theorem hasWrittenSize_ofJson (value : Json) :
    (ofJson value).HasWrittenSize := by
  intro size given
  cases value with
  | string text =>
      rcases ofJson_string text with
        ⟨base, equal⟩ | ⟨base, stated, equal, written⟩ | equal <;>
        rw [equal] at given
      · contradiction
      · exact Option.some.inj given ▸ written
      · contradiction
  | null | bool _ | number _ | array _ | object _ => contradiction

end TypeSpec

namespace CompiledColumn

variable (options : CompileOptions) (index : Nat) (descriptor : Descriptor)

/-- The type of a compiled column is the one that the options state, or else
the one in the second slot. -/
theorem columnType_ofDescriptor :
    (ofDescriptor options index descriptor).column.columnType =
      ((Positional.options descriptor.values).get? "type").elim
        (Positional.slotType descriptor.values) Column.statedType := by
  rw [(Positional.ofDescriptor_eq_merge options index descriptor).2,
    Column.columnType_merge]
  rfl

/-- The size of a compiled type is read back from its text. -/
theorem hasWrittenSize_ofDescriptor {spec : TypeSpec}
    (given : (ofDescriptor options index descriptor).column.columnType =
      some spec) : spec.HasWrittenSize := by
  rw [columnType_ofDescriptor] at given
  cases stated : (Positional.options descriptor.values).get? "type" with
  | some value =>
      rw [stated, Option.elim_some, Column.statedType] at given
      split at given
      · contradiction
      · exact Option.some.inj given ▸ TypeSpec.hasWrittenSize_ofJson value
  | none =>
      rw [stated, Option.elim_none] at given
      rcases Positional.slotType_cases given with
        ⟨text, -, rfl⟩ | ⟨value, rfl, -⟩
      · exact TypeSpec.hasWrittenSize_ofKeyword_parse text
      · intro _ sized
        contradiction

/-- A compiled type is respelled exactly if the second slot spells out a padded
length and the options state no type. -/
theorem isRespelled_ofDescriptor_iff :
    (ofDescriptor options index descriptor).column.IsRespelled ↔
      (Positional.options descriptor.values).get? "type" = none ∧
        ∃ text, Positional.slot? descriptor.values 2 = some (.string text) ∧
          TypeSpec.SpellsPaddedLength text := by
  unfold Column.IsRespelled
  rw [columnType_ofDescriptor]
  cases stated : (Positional.options descriptor.values).get? "type" with
  | some value =>
      rw [Option.elim_some, Column.statedType]
      refine iff_of_false ?_ (by simp)
      rintro ⟨spec, given, respelled⟩
      split at given
      · contradiction
      · obtain rfl := Option.some.inj given
        exact TypeSpec.not_isRespelled_ofJson value respelled
  | none =>
      rw [Option.elim_none]
      unfold Positional.slotType
      split
      · rename_i text slot
        simp [slot, TypeSpec.isRespelled_ofKeyword_parse_iff]
      · rename_i other notText slot
        refine iff_of_false ?_ ?_
        · rintro ⟨spec, given, respelled⟩
          split at given
          · obtain rfl := Option.some.inj given
            contradiction
          · contradiction
        · rintro ⟨-, text, same, -⟩
          rw [slot] at same
          exact notText text (Option.some.inj same)
      · rename_i empty
        simp [empty]

/-- A compiled column is written again after it was read unless its type is
respelled. -/
theorem toJson_readBack_ofDescriptor_iff :
    (ofDescriptor options index descriptor).column.readBack.toJson =
        (ofDescriptor options index descriptor).column.toJson ↔
      ¬(ofDescriptor options index descriptor).column.IsRespelled :=
  Column.toJson_readBack_iff (isSettled_column_ofDescriptor _ _ _)
    fun _ given => hasWrittenSize_ofDescriptor _ _ _ given

end CompiledColumn

theorem toJson_readBack_iff_of_mem_compile {options : CompileOptions}
    {descriptors : List Descriptor} {entry : String × Column}
    (member : entry ∈ (compile options descriptors).toList) :
    entry.2.readBack.toJson = entry.2.toJson ↔ ¬entry.2.IsRespelled := by
  obtain ⟨index, descriptor, same⟩ := exists_ofDescriptor_of_mem_compile member
  exact same ▸
    CompiledColumn.toJson_readBack_ofDescriptor_iff options index descriptor

/-! ## Schemas -/

namespace Schema

/-- A schema is written again after it was read if each of its columns is. -/
theorem toJson_readBack_iff (schema : Schema) :
    schema.readBack.toJson = schema.toJson ↔ ∀ entry ∈ schema.toList,
      entry.2.readBack.toJson = entry.2.toJson := by
  have entrywise : schema.readBack.toJson = schema.toJson ↔
      schema.toList.map (fun entry => (entry.1, entry.2.readBack.toJson)) =
        schema.toList.map fun entry => (entry.1, entry.2.toJson) := by
    simp [toJson, Json.ofMap, readBack, OrderedMap.mapValues, toList]
  rw [entrywise, List.map_inj_left]
  apply forall₂_congr
  intro entry _
  exact ⟨congrArg Prod.snd, fun same => Prod.ext rfl same⟩

/-- What was read back once is read back as it is. -/
theorem ofJson?_toJson_readBack {schema : Schema}
    (settled : ∀ entry ∈ schema.toList, entry.2.IsSettled) :
    ofJson? schema.readBack.toJson = some schema.readBack := by
  have readSettled : ∀ entry ∈ schema.readBack.toList,
      entry.2.IsSettled := by
    intro entry member
    obtain ⟨before, written, rfl⟩ := List.mem_map.mp member
    exact (settled before written).readBack
  have faithful : ∀ entry ∈ schema.readBack.toList,
      entry.2.IsFaithful := by
    intro entry member
    obtain ⟨before, -, rfl⟩ := List.mem_map.mp member
    exact Column.isFaithful_readBack before.2
  rw [ofJson?_toJson readSettled, (readBack_eq_iff readSettled).mpr faithful]

end Schema

/-- The JSON value of a compiled schema is read back and written as the same
value exactly if no type is respelled.  Whether a column is written as before
depends on that column alone: its type is respelled exactly if the second slot
of the descriptor spells out an abstract type with a padded length and no
options state another type.  It is read as a type with a length, and what was
written the second time stays as it is. -/
theorem compile_toJson_fixed_iff (options : CompileOptions)
    (descriptors : List Descriptor) :
    ∃ copy : Schema,
      Schema.ofJson? (compile options descriptors).toJson = some copy ∧
      (copy.toJson = (compile options descriptors).toJson ↔
        ∀ entry ∈ (compile options descriptors).toList,
          ¬entry.2.IsRespelled) ∧
      (∀ name column,
        (compile options descriptors).get? name = some column →
        ∃ read, copy.get? name = some read ∧
          (read.toJson = column.toJson ↔ ¬column.IsRespelled) ∧
          (column.IsRespelled → ∃ base length,
            read.columnType = some (.sized base (.length length)))) ∧
      (∀ index descriptor,
        (CompiledColumn.ofDescriptor options index
            descriptor).column.IsRespelled ↔
          (Positional.options descriptor.values).get? "type" = none ∧
            ∃ text,
              Positional.slot? descriptor.values 2 = some (.string text) ∧
              TypeSpec.SpellsPaddedLength text) ∧
      Schema.ofJson? copy.toJson = some copy := by
  have settled : ∀ entry ∈ (compile options descriptors).toList,
      entry.2.IsSettled := fun entry member => isSettled_of_mem_compile member
  refine ⟨(compile options descriptors).readBack,
    Schema.ofJson?_toJson settled, ?_, ?_,
    CompiledColumn.isRespelled_ofDescriptor_iff options,
    Schema.ofJson?_toJson_readBack settled⟩
  · rw [Schema.toJson_readBack_iff]
    exact forall₂_congr fun entry member =>
      toJson_readBack_iff_of_mem_compile member
  · intro name column stored
    have member := (OrderedMap.get?_eq_some_iff _ _ _).mp stored
    refine ⟨column.readBack, ?_, toJson_readBack_iff_of_mem_compile member,
      Column.IsRespelled.columnType_readBack⟩
    unfold Schema.get? at stored ⊢
    rw [Schema.readBack, OrderedMap.get?_mapValues, stored]
    rfl

/-- A keyword that spells out a length with a plus sign is written without it
after it was read. -/
theorem compile_signedLength_respelled :
    ∃ copy : Schema,
      Schema.ofJson? (compile .standard
        [.slots [.string "c", .string "STRING(+5)"]]).toJson = some copy ∧
      copy.toJson ≠ (compile .standard
        [.slots [.string "c", .string "STRING(+5)"]]).toJson := by
  refine ⟨_, Schema.ofJson?_toJson fun entry member =>
    isSettled_of_mem_compile member, ?_⟩
  rw [Ne, Schema.toJson_readBack_iff]
  intro same
  have kept := (CompiledColumn.toJson_readBack_ofDescriptor_iff .standard 0
    (.slots [.string "c", .string "STRING(+5)"])).mp
      (same _ List.mem_cons_self)
  exact kept ⟨_, rfl, .string, "+5", rfl, rfl, Or.inl rfl⟩

end TerseSchema
