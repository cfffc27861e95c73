import TerseSchema.Proofs.Compilation.PrimaryKey

/-!
# Storage fields of plainly named columns

A text in the first slot names the column and gives its storage field, which is
the storage name of this text if the two differ.  Options may state a field of
their own.  They may also rename the column, and this replaces the logical name
and nothing else: the storage field remains the one of the first slot.
-/

namespace TerseSchema

/-- The name under which the values of a column are stored: its storage field,
or else its logical name. -/
def Column.identifier (column : Column) (name : String) : String :=
  column.field.getD name

/-- The storage field and the text that it comes from give the storage name. -/
theorem StorageName.getD_storageField (name : String) :
    (storageField name).getD name = normalize name := by
  unfold storageField
  dsimp only
  split
  · rename_i same
    exact same.symm
  · rfl

namespace Positional

variable {slots : List Json} {written : String}
  (plain : slot? slots 1 = some (.string written))
include plain

theorem slotField_of_plain :
    slotField slots = StorageName.storageField written := by
  rw [slotField, plain]

/-- The text in the first slot is the name of a column unless the options give a
name that is not null.  The text of that one is the name then. -/
theorem name_of_plain :
    ((∀ value, (options slots).get? "name" = some value →
        value.isNull = true) → name slots = written) ∧
      ∀ value, (options slots).get? "name" = some value →
        value.isNull = false → name slots = value.keyText := by
  have first : slotName slots = written := by
    rw [slotName, plain]
  unfold name
  constructor
  · intro kept
    cases stated : (options slots).get? "name" with
    | none => exact first
    | some value => exact (if_pos (kept value stated)).trans first
  · intro value stated notNull
    rw [stated]
    exact if_neg (Bool.eq_false_iff.mp notNull)

end Positional

/-- Unless the options state a field, a column has the storage field that its
first slot gives. -/
theorem CompiledColumn.field_ofDescriptor (options : CompileOptions)
    (index : Nat) {descriptor : Descriptor}
    (unstated : "field" ∉ Positional.optionKeys descriptor.values) :
    (ofDescriptor options index descriptor).column.field =
      Positional.slotField descriptor.values := by
  rw [column_ofDescriptor, Column.field_merge,
    Positional.get?_options_eq_none unstated (by decide)]
  rfl

/-- A descriptor with a text in its first slot and no field among its options
gives a column whose storage field is the storage name of this text, if the two
differ.  The text is the logical name too, unless the options give a name that
is not null, and then the text of that one is the logical name.  A column whose
logical name is the text in the first slot is stored under the storage name of
its logical name. -/
theorem storageField_of_plainName (options : CompileOptions)
    {descriptors : List Descriptor} {index : Nat} {descriptor : Descriptor}
    {written : String} (placed : descriptors[index]? = some descriptor)
    (plain : Positional.slot? descriptor.values 1 = some (.string written))
    (unstated : "field" ∉ Positional.optionKeys descriptor.values) :
    ∃ key column,
      (Compilation.entries options descriptors)[index]? =
          some (key, column) ∧
        column.field =
          (if StorageName.normalize written = written then none
            else some (StorageName.normalize written)) ∧
        ((∀ value,
            (Positional.options descriptor.values).get? "name" = some value →
            value.isNull = true) → key = written) ∧
        (∀ value,
          (Positional.options descriptor.values).get? "name" = some value →
          value.isNull = false → key = value.keyText) ∧
        (key = written →
          column.identifier key = StorageName.normalize key) := by
  have field := CompiledColumn.field_ofDescriptor options index unstated
  rw [Positional.slotField_of_plain plain] at field
  obtain ⟨kept, renamed⟩ := Positional.name_of_plain plain
  refine ⟨Positional.name descriptor.values,
    (CompiledColumn.ofDescriptor options index descriptor).column, ?_, field,
    kept, renamed, ?_⟩
  · rw [Compilation.entries_eq_mapIdx, List.getElem?_mapIdx, placed]
    rfl
  · intro same
    rw [Column.identifier, field, same, StorageName.getD_storageField]

/-- A column whose options do not rename it is stored under its storage name,
and a renamed one keeps the storage field of its first slot. -/
theorem storageField_of_kept_and_renamed :
    let kept := Descriptor.slots [.string "fooBar", .string "s",
      .object [("comment", .string "x")]]
    let renamed := Descriptor.slots [.string "userID", .string "i",
      .bool true, .null, .object [("name", .string "owner")]]
    (∃ column,
      (Compilation.entries .standard [kept, renamed])[0]? =
          some ("fooBar", column) ∧
        column.identifier "fooBar" = "foo_bar") ∧
      ∃ column,
        (Compilation.entries .standard [kept, renamed])[1]? =
            some ("owner", column) ∧
          column.field = some "user_id" := by
  intro kept renamed
  have first : [kept, renamed][0]? = some kept := rfl
  have second : [kept, renamed][1]? = some renamed := rfl
  have unnamed :
      (Positional.options kept.values).get? "name" = none := rfl
  have named : (Positional.options renamed.values).get? "name" =
      some (.string "owner") := rfl
  have keptName : StorageName.normalize "fooBar" = "foo_bar" := by decide
  have renamedName : StorageName.normalize "userID" = "user_id" := by decide
  constructor
  · obtain ⟨key, column, stored, -, isKept, -, identifier⟩ :=
      storageField_of_plainName .standard first rfl
        (by decide : "field" ∉ ["comment"])
    obtain rfl : key = "fooBar" := isKept fun value stated =>
      absurd (stated.symm.trans unnamed) (Option.some_ne_none value)
    exact ⟨column, stored, (identifier rfl).trans keptName⟩
  · obtain ⟨key, column, stored, field, -, isRenamed, -⟩ :=
      storageField_of_plainName .standard second rfl
        (by decide : "field" ∉ ["name"])
    obtain rfl : key = "owner" := isRenamed _ named rfl
    refine ⟨column, stored, field.trans ?_⟩
    rw [renamedName]
    rfl

/-- A column that the options rename need not be stored under the storage name
of its logical name. -/
theorem storageField_of_renamed :
    let descriptor := Descriptor.slots [.string "fooBar", .string "s",
      .object [("name", .string "label")]]
    Positional.slot? descriptor.values 1 = some (.string "fooBar") ∧
      "field" ∉ Positional.optionKeys descriptor.values ∧
      StorageName.normalize "label" = "label" ∧
      ∃ column,
        (Compilation.entries .standard [descriptor])[0]? =
            some ("label", column) ∧
          column.field = some "foo_bar" ∧
          column.identifier "label" ≠ StorageName.normalize "label" := by
  intro descriptor
  have unstated : "field" ∉ Positional.optionKeys descriptor.values :=
    (by decide : "field" ∉ ["name"])
  have label : StorageName.normalize "label" = "label" := by decide
  have field : (CompiledColumn.ofDescriptor .standard 0
      descriptor).column.field = some "foo_bar" :=
    (CompiledColumn.field_ofDescriptor .standard 0 unstated).trans
      (by decide : StorageName.storageField "fooBar" = some "foo_bar")
  refine ⟨rfl, unstated, label, _, rfl, field, ?_⟩
  rw [label, Column.identifier]
  exact fun same => absurd (field ▸ same) (by decide)

end TerseSchema
