import TerseSchema.Proofs.Compilation.RoundTrip

/-!
# One place for each key

A column comes from a compiled schema or from an object, and any objects may be
merged into it afterwards.  Whatever they hold, none of its keys lives both in
a property and among the options: each assignment keeps the column settled.
Hence the JSON object of the column has each key once.
-/

namespace TerseSchema
namespace Column

/-- A column that compiling, reading and merging can lead to. -/
inductive IsObtained : Column → Prop
  | compiled {options : CompileOptions} {descriptors : List Descriptor}
      {name : String} {column : Column}
      (stored : (compile options descriptors).get? name = some column) :
      IsObtained column
  | described (object : OrderedMap Json) : IsObtained (ofObject object)
  | read {value : Json} {column : Column}
      (given : ofJson? value = some column) : IsObtained column
  | merged {column : Column} (obtained : IsObtained column)
      (object : OrderedMap Json) : IsObtained (column.merge object)

/-- No key lives both in a property and among the options. -/
structure KeysApart (column : Column) : Prop where
  name : column.options.get? "name" = none
  columnType : column.options.get? "type" = none
  defaultValue : column.options.get? "defaultValue" = none
  field : ∀ value, column.options.get? "field" = some value →
    column.field = none ∧ value.isNull = false ∧ value.text? = none
  allowNull : ∀ value, column.options.get? "allowNull" = some value →
    column.allowNull = none ∧ value.isNull = false ∧ value.bool? = none
  primaryKey : ∀ value, column.options.get? "primaryKey" = some value →
    column.primaryKey = none ∧ value.isNull = false ∧ value.bool? = none

/-- Every column that can be obtained is settled. -/
theorem IsObtained.isSettled {column : Column} (obtained : column.IsObtained) :
    column.IsSettled := by
  induction obtained with
  | compiled stored =>
      have member := (OrderedMap.get?_eq_some_iff _ _ _).mp stored
      exact isSettled_of_mem_compile member
  | described object => exact isSettled_ofObject object
  | read given =>
      obtain ⟨object, -, rfl⟩ := Option.map_eq_some_iff.mp given
      exact isSettled_ofObject object
  | merged obtained object inductionHypothesis =>
      exact inductionHypothesis.merge object

section
variable {column : Column} (settled : column.IsSettled)
include settled

/-- A key whose values no column keeps is not among the options. -/
theorem get?_options_eq_none {key : String}
    (refused : ∀ value, isOption key value = false) :
    column.options.get? key = none := by
  rw [Option.eq_none_iff_forall_ne_some]
  intro value kept
  have option := (settled.options key value kept).1
  rw [refused value] at option
  contradiction

theorem IsSettled.keysApart : column.KeysApart where
  name := get?_options_eq_none settled fun _ => rfl
  columnType := get?_options_eq_none settled fun _ => rfl
  defaultValue := get?_options_eq_none settled fun _ => rfl
  field value kept := by
    obtain ⟨option, unset⟩ := settled.options "field" value kept
    exact ⟨by simpa [property?] using unset,
      by simpa [isOption, isTaken] using option⟩
  allowNull value kept := by
    obtain ⟨option, unset⟩ := settled.options "allowNull" value kept
    exact ⟨by simpa [property?] using unset,
      by simpa [isOption, isTaken] using option⟩
  primaryKey value kept := by
    obtain ⟨option, unset⟩ := settled.options "primaryKey" value kept
    exact ⟨by simpa [property?] using unset,
      by simpa [isOption, isTaken] using option⟩

end

/-- Whatever objects a column is made of, none of its keys lives in two places,
and its JSON object has each key once. -/
theorem keysApart_of_isObtained {column : Column}
    (obtained : column.IsObtained) :
    column.KeysApart ∧
      ∃ members, column.toJson = .object members ∧
        (OrderedMap.keysOf members).Nodup := by
  have settled := obtained.isSettled
  refine ⟨settled.keysApart,
    column.properties ++ column.options.entries, rfl, ?_⟩
  exact settled.nodup_written

/-- A text in the place of the permission of null is kept among the options of
a compiled column, and so is a truth value that is merged in the place of its
storage field. -/
theorem keysApart_of_misshapen_members :
    let descriptor := Descriptor.slots [.string "fooBar", .string "s",
      .object [("allowNull", .string "yes")]]
    ∃ column : Column,
      (compile .standard [descriptor]).get? "fooBar" = some column ∧
      column.field = some "foo_bar" ∧
      column.options.get? "allowNull" = some (.string "yes") ∧
      let merged := column.merge
        (.ofList [("field", .bool true), ("type", .null)])
      merged.options.get? "field" = some (.bool true) ∧
      merged.KeysApart ∧ ∃ members, merged.toJson = .object members ∧
        (OrderedMap.keysOf members).Nodup := by
  intro descriptor
  have stored : (compile .standard [descriptor]).get? "fooBar" = some _ := rfl
  exact ⟨_, stored, rfl, rfl, rfl,
    keysApart_of_isObtained ((IsObtained.compiled stored).merged _)⟩

end Column
end TerseSchema
