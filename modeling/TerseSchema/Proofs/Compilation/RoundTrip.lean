import TerseSchema.Proofs.Compilation.Positional
import TerseSchema.Registry.Table

/-!
# Reading compiled schemas back

Every compiled column is settled, so the JSON value of a compiled schema is
read back column by column, both as a schema and as the written columns of a
table.  Nothing is lost but the two things that have the same text as something
else: an unresolved keyword, and a literal default that is the text of the
marker.
-/

namespace TerseSchema

/-! ## Compiled columns are settled -/

namespace Positional

/-- The second slot gives the type of a keyword, or a value of its own that is
neither a text nor null. -/
theorem slotType_cases {slots : List Json} {spec : TypeSpec}
    (given : slotType slots = some spec) :
    (∃ text, slot? slots 2 = some (.string text) ∧
      spec = .ofKeyword (.parse text)) ∨
      ∃ value, spec = .direct value ∧ value.isNull = false ∧
        value.text? = none := by
  unfold slotType at given
  split at given
  · rename_i text slot
    exact Or.inl ⟨text, slot, (Option.some.inj given).symm⟩
  · rename_i other notText _
    split at given
    · rename_i truthy
      refine Or.inr ⟨other, (Option.some.inj given).symm, ?_⟩
      cases other with
      | null => contradiction
      | string text => exact absurd rfl (notText text)
      | bool _ | number _ | array _ | object _ => exact ⟨rfl, rfl⟩
    · contradiction
  · contradiction

/-- The second slot gives a settled type, if it gives one. -/
theorem isSettled_slotType {slots : List Json} {spec : TypeSpec}
    (given : slotType slots = some spec) : spec.IsSettled := by
  rcases slotType_cases given with ⟨text, -, rfl⟩ | ⟨value, rfl, given, notText⟩
  · exact TypeSpec.isSettled_ofKeyword_parse text
  · refine ⟨given, ?_⟩
    cases value with
    | string text => contradiction
    | null | bool _ | number _ | array _ | object _ => rfl

theorem isSettled_base (slots : List Json) (options : CompileOptions)
    (index : Nat) : (base slots options index).IsSettled where
  columnType _ given := isSettled_slotType given
  options _ _ kept := nomatch kept

end Positional

/-- Every descriptor compiles to a settled column. -/
theorem CompiledColumn.isSettled_column_ofDescriptor
    (options : CompileOptions) (index : Nat) (descriptor : Descriptor) :
    (ofDescriptor options index descriptor).column.IsSettled := by
  rw [(Positional.ofDescriptor_eq_merge options index descriptor).2]
  exact (Positional.isSettled_base _ _ _).merge _

/-- Every column of a compiled schema is the one of a descriptor. -/
theorem exists_ofDescriptor_of_mem_compile {options : CompileOptions}
    {descriptors : List Descriptor} {entry : String × Column}
    (member : entry ∈ (compile options descriptors).toList) :
    ∃ index descriptor,
      (CompiledColumn.ofDescriptor options index descriptor).column =
        entry.2 := by
  have compiled := OrderedMap.mem_of_mem_ofList member
  simp only [List.mem_map, Compilation.columns, List.mem_mapIdx] at compiled
  obtain ⟨_, ⟨index, _, rfl⟩, rfl⟩ := compiled
  exact ⟨index, _, rfl⟩

theorem isSettled_of_mem_compile {options : CompileOptions}
    {descriptors : List Descriptor} {entry : String × Column}
    (member : entry ∈ (compile options descriptors).toList) :
    entry.2.IsSettled := by
  obtain ⟨index, descriptor, same⟩ := exists_ofDescriptor_of_mem_compile member
  exact same ▸ CompiledColumn.isSettled_column_ofDescriptor options index _

/-! ## Schemas of settled columns -/

namespace Schema

/-- The schema that is read from the JSON value of another one. -/
def readBack (schema : Schema) : Schema :=
  ⟨schema.columns.mapValues Column.readBack⟩

theorem columnsOf?_written {entries : List (String × Column)}
    (settled : ∀ entry ∈ entries, entry.2.IsSettled) :
    columnsOf? (entries.map fun entry => (entry.1, entry.2.toJson)) =
      some (entries.map fun entry => (entry.1, entry.2.readBack)) := by
  induction entries with
  | nil => rfl
  | cons entry rest inductionHypothesis =>
      have first := settled entry List.mem_cons_self
      have others := inductionHypothesis fun other member =>
        settled other (List.mem_cons_of_mem _ member)
      simp [columnsOf?, Column.ofJson?_toJson first, others]

variable {schema : Schema}
  (settled : ∀ entry ∈ schema.toList, entry.2.IsSettled)

include settled in
theorem ofJson?_toJson : ofJson? schema.toJson = some schema.readBack := by
  have members : schema.toJson.members? =
      some (schema.columns.mapValues Column.toJson) :=
    congrArg some (OrderedMap.ofList_entries _)
  have columns : columnsOf?
      (schema.columns.mapValues Column.toJson).entries =
        some (schema.columns.mapValues Column.readBack).entries :=
    columnsOf?_written settled
  simp [ofJson?, members, columns, ofList, readBack]

include settled in
theorem tableColumns_ofJson_toJson :
    TableColumns.ofJson schema.toJson = .structured schema.readBack := by
  have records : (schema.columns.mapValues Column.toJson).mapValues
      TableColumns.recordOf = schema.columns.mapValues Column.readBack := by
    ext1
    simp only [OrderedMap.mapValues, List.map_map]
    apply List.map_congr_left
    intro entry member
    simp [TableColumns.recordOf, Column.ofJson?_toJson (settled entry member)]
  simp [TableColumns.ofJson, toJson, Json.ofMap, records, readBack]

include settled in
/-- A schema of settled columns is read back exactly if its columns are. -/
theorem readBack_eq_iff :
    schema.readBack = schema ↔ ∀ entry ∈ schema.toList,
      entry.2.IsFaithful := by
  have entrywise : schema.readBack = schema ↔
      schema.toList.map (fun entry => (entry.1, entry.2.readBack)) =
        schema.toList.map id := by
    rw [List.map_id]
    constructor
    · exact fun same => congrArg toList same
    · exact fun same => congrArg Schema.mk (OrderedMap.ext same)
  rw [entrywise, List.map_inj_left]
  apply forall₂_congr
  intro entry member
  rw [← Column.readBack_eq_iff (settled entry member)]
  exact ⟨congrArg Prod.snd, fun same => Prod.ext rfl same⟩

/-- Columns that are equal to the ones read back are faithful, even if neither
the order of columns nor that of options counts. -/
theorem isFaithful_of_same (same : schema.readBack.same schema = true)
    {entry : String × Column} (member : entry ∈ schema.toList) :
    entry.2.IsFaithful := by
  simp only [Schema.same, OrderedMap.same, Bool.and_eq_true,
    List.all_eq_true] at same
  have related := same.2 (entry.1, entry.2.readBack)
    (List.mem_map_of_mem member)
  rw [(OrderedMap.get?_eq_some_iff schema.columns entry.1 entry.2).mpr member]
    at related
  exact Column.isFaithful_of_same related

end Schema

/-- The JSON value of a compiled schema is read back as a schema, and as the
columns of a table, with the same names in the same order.  It is the compiled
schema exactly if no column has an unresolved keyword as its type or the text
of the marker as its default value; in any case all else survives. -/
theorem compile_readBack (options : CompileOptions)
    (descriptors : List Descriptor) :
    ∃ copy : Schema,
      Schema.ofJson? (compile options descriptors).toJson = some copy ∧
      TableColumns.ofJson (compile options descriptors).toJson =
        .structured copy ∧
      copy.names = (compile options descriptors).names ∧
      (copy = compile options descriptors ↔
        ∀ entry ∈ (compile options descriptors).toList,
          entry.2.IsFaithful) ∧
      (copy.same (compile options descriptors) = true →
        ∀ entry ∈ (compile options descriptors).toList,
          entry.2.IsFaithful) ∧
      ∀ name column,
        (compile options descriptors).get? name = some column →
        ∃ read, copy.get? name = some read ∧
          read.field = column.field ∧
          read.allowNull = column.allowNull ∧
          read.primaryKey = column.primaryKey ∧
          read.options = column.options ∧
          (read.columnType = column.columnType ↔
            ∀ spec, column.columnType = some spec →
              spec.isUnresolved = false) ∧
          (read.defaultValue = column.defaultValue ↔
            column.defaultValue ≠
              some (.literal (.string DefaultValue.marker))) := by
  have settled : ∀ entry ∈ (compile options descriptors).toList,
      entry.2.IsSettled := fun entry member => isSettled_of_mem_compile member
  refine ⟨(compile options descriptors).readBack,
    Schema.ofJson?_toJson settled,
    Schema.tableColumns_ofJson_toJson settled,
    OrderedMap.keys_mapValues _ _,
    Schema.readBack_eq_iff settled,
    fun same entry member => Schema.isFaithful_of_same same member, ?_⟩
  intro name column stored
  have columnSettled : column.IsSettled :=
    settled (name, column) ((OrderedMap.get?_eq_some_iff _ _ _).mp stored)
  refine ⟨column.readBack, ?_, rfl, rfl, rfl, rfl,
    Column.columnType_readBack_iff columnSettled,
    Column.defaultValue_readBack_iff column⟩
  unfold Schema.get? at stored ⊢
  rw [Schema.readBack, OrderedMap.get?_mapValues, stored]
  rfl

end TerseSchema
