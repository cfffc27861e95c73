import TerseSchema.Proofs.Column.Settled

/-!
# Reading columns back

The object of a settled column is read back as the same column, except that an
unresolved keyword becomes a value or a type of its own, and that the text of
the marker becomes the marker.
-/

namespace TerseSchema

/-- A default value is read back unless it is the text of the marker. -/
theorem DefaultValue.ofJson_toJson_iff (value : DefaultValue) :
    ofJson value.toJson = value ↔ value ≠ .literal (.string marker) := by
  cases value with
  | freshUuid => simp [toJson, ofJson]
  | literal value =>
      cases value with
      | string text =>
          by_cases isMarker : text = marker <;>
            simp [toJson, ofJson, isMarker]
      | null => simp [toJson, ofJson]
      | bool _ => simp [toJson, ofJson]
      | number _ => simp [toJson, ofJson]
      | array _ => simp [toJson, ofJson]
      | object _ => simp [toJson, ofJson]

namespace Column

/-- The column that is read from the object of a settled one. -/
def readBack (column : Column) : Column :=
  { column with
    columnType := column.columnType.map fun spec => .ofJson spec.toJson
    defaultValue := column.defaultValue.map fun value => .ofJson value.toJson }

/-- Whether neither an unresolved keyword nor the text of the marker gets in
the way of reading a column back. -/
def IsFaithful (column : Column) : Prop :=
  (∀ spec, column.columnType = some spec → spec.isUnresolved = false) ∧
    column.defaultValue ≠ some (.literal (.string DefaultValue.marker))

/-- A property is written as a value that the property takes. -/
theorem isOption_of_property? {column : Column} {key : String} {value : Json}
    (set : column.property? key = some value) :
    isOption key value = false := by
  unfold property? at set
  split at set
  · obtain ⟨text, -, rfl⟩ := Option.map_eq_some_iff.mp set
    rfl
  · rfl
  · obtain ⟨allowed, -, rfl⟩ := Option.map_eq_some_iff.mp set
    rfl
  · rfl
  · obtain ⟨isKey, -, rfl⟩ := Option.map_eq_some_iff.mp set
    rfl
  · contradiction

theorem isOption_of_mem_properties {column : Column} {entry : String × Json}
    (member : entry ∈ column.properties) :
    isOption entry.1 entry.2 = false := by
  rw [properties_eq_filterMap, List.mem_filterMap] at member
  obtain ⟨key, -, written⟩ := member
  obtain ⟨value, set, rfl⟩ := Option.map_eq_some_iff.mp written
  exact isOption_of_property? set

section
variable {column : Column} (settled : column.IsSettled)
include settled

/-- In the object of a column a property or else an option stands under a
key. -/
theorem get?_written (key : String) :
    (OrderedMap.ofList (column.properties ++ column.options.entries)).get? key =
      (column.property? key).or (column.options.get? key) := by
  unfold OrderedMap.get?
  rw [OrderedMap.entries_ofList settled.nodup_written, List.lookup_append,
    lookup_properties]

/-- A part that is unset stays unset if the value under its key is not one
that the part takes. -/
theorem elim_get?_written {γ : Type} (key : String)
    (stated : Json → Option γ)
    (refused : ∀ value, isOption key value = true → stated value = none) :
    ((OrderedMap.ofList (column.properties ++ column.options.entries)).get?
      key).elim none stated = (column.property? key).bind stated := by
  rw [get?_written settled]
  cases set : column.property? key with
  | some value => rfl
  | none =>
      cases kept : column.options.get? key with
      | none => rfl
      | some value => exact refused value (settled.options key value kept).1

/-- The options in the object of a column are the ones of the column. -/
theorem keptMembers_written :
    keptMembers (.ofList (column.properties ++ column.options.entries)) =
      column.options.entries := by
  have properties : (column.properties.filter fun entry =>
      isOption entry.1 entry.2) = [] :=
    List.filter_eq_nil_iff.mpr fun entry member => by
      simp [isOption_of_mem_properties member]
  have options : (column.options.entries.filter fun entry =>
      isOption entry.1 entry.2) = column.options.entries :=
    List.filter_eq_self.mpr fun entry member =>
      settled.isOption_of_mem member
  rw [keptMembers, OrderedMap.entries_ofList settled.nodup_written,
    List.filter_append, properties, options, List.nil_append]

/-- A settled column is read back from its object. -/
theorem ofObject_written :
    ofObject (.ofList (column.properties ++ column.options.entries)) =
      column.readBack := by
  unfold ofObject
  ext1
  case field =>
    rw [field_merge]
    refine (elim_get?_written settled "field" Json.text? ?_).trans ?_
    · intro value option
      simp_all [isOption, isTaken]
    · cases set : column.field <;> simp [property?, readBack, set, Json.text?]
  case columnType =>
    rw [columnType_merge]
    refine (elim_get?_written settled "type" statedType ?_).trans ?_
    · intro value option
      simp [isOption, isTaken] at option
    · cases set : column.columnType with
      | none => simp [property?, readBack, set]
      | some spec =>
          have written := TypeSpec.isNull_toJson (settled.columnType spec set)
          simp [property?, readBack, set, statedType, written]
  case allowNull =>
    rw [allowNull_merge]
    refine (elim_get?_written settled "allowNull" Json.bool? ?_).trans ?_
    · intro value option
      simp_all [isOption, isTaken]
    · cases set : column.allowNull <;>
        simp [property?, readBack, set, Json.bool?]
  case defaultValue =>
    rw [defaultValue_merge]
    refine (elim_get?_written settled "defaultValue"
      (fun value => some (DefaultValue.ofJson value)) ?_).trans ?_
    · intro value option
      simp [isOption, isTaken] at option
    · cases set : column.defaultValue <;> simp [property?, readBack, set]
  case primaryKey =>
    rw [primaryKey_merge]
    refine (elim_get?_written settled "primaryKey" Json.bool? ?_).trans ?_
    · intro value option
      simp_all [isOption, isTaken]
    · cases set : column.primaryKey <;>
        simp [property?, readBack, set, Json.bool?]
  case options =>
    apply OrderedMap.ext
    rw [entries_options_merge _ rfl, keptMembers_written settled]
    rfl

/-- A settled column is read back from its JSON value. -/
theorem ofJson?_toJson : ofJson? column.toJson = some column.readBack :=
  congrArg some (ofObject_written settled)

/-- The type of a settled column is read back unless it is an unresolved
keyword. -/
theorem columnType_readBack_iff :
    column.readBack.columnType = column.columnType ↔
      ∀ spec, column.columnType = some spec → spec.isUnresolved = false := by
  cases set : column.columnType with
  | none => simp [readBack, set]
  | some spec =>
      simpa [readBack, set] using
        TypeSpec.ofJson_toJson_iff (settled.columnType spec set)

end

/-- The default value of a column is read back unless it is the text of the
marker. -/
theorem defaultValue_readBack_iff (column : Column) :
    column.readBack.defaultValue = column.defaultValue ↔
      column.defaultValue ≠ some (.literal (.string DefaultValue.marker)) := by
  cases set : column.defaultValue with
  | none => simp [readBack, set]
  | some value =>
      simpa [readBack, set] using DefaultValue.ofJson_toJson_iff value

theorem readBack_eq_iff {column : Column} (settled : column.IsSettled) :
    column.readBack = column ↔ column.IsFaithful := by
  constructor
  · intro same
    exact ⟨(columnType_readBack_iff settled).mp (congrArg columnType same),
      (defaultValue_readBack_iff column).mp (congrArg defaultValue same)⟩
  · rintro ⟨resolved, notMarker⟩
    have sameType := (columnType_readBack_iff settled).mpr resolved
    have sameDefault := (defaultValue_readBack_iff column).mpr notMarker
    ext1
    · rfl
    · exact sameType
    · rfl
    · exact sameDefault
    · rfl
    · rfl

/-- A column that is equal to the one read back, be it up to the order of
options, is faithful. -/
theorem isFaithful_of_same {column : Column}
    (same : column.readBack.same column = true) : column.IsFaithful := by
  simp only [Column.same, Bool.and_eq_true] at same
  obtain ⟨⟨⟨⟨⟨-, sameType⟩, -⟩, sameDefault⟩, -⟩, -⟩ := same
  constructor
  · intro spec set
    cases spec with
    | unresolved keyword size =>
        have resolved :=
          TypeSpec.isUnresolved_ofJson (TypeSpec.unresolved keyword size).toJson
        cases read : TypeSpec.ofJson (TypeSpec.unresolved keyword size).toJson
          <;> simp_all [readBack, sameOptional, TypeSpec.same,
            TypeSpec.isUnresolved]
    | plain _ => rfl
    | sized _ _ => rfl
    | direct _ => rfl
  · intro set
    simp [readBack, set, sameOptional, DefaultValue.toJson,
      DefaultValue.ofJson, DefaultValue.same] at sameDefault

end Column
end TerseSchema
