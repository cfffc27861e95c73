import TerseSchema.Proofs.Column.Merge
import TerseSchema.Proofs.Column.TypeText

/-!
# Settled columns

No key of a settled column lives in two places: an option is a value that no
property takes, and the property of its key is unset.  Its type is one that a
descriptor or an object can give.  The column without properties is settled,
and merging an object keeps a column settled.

A key that is written for a settled column is therefore written once.
-/

namespace TerseSchema
namespace Column

/-- The JSON value of the property of a key, if it is set. -/
def property? (column : Column) : String → Option Json
  | "field" => column.field.map Json.string
  | "type" => column.columnType.map TypeSpec.toJson
  | "allowNull" => column.allowNull.map Json.bool
  | "defaultValue" => column.defaultValue.map DefaultValue.toJson
  | "primaryKey" => column.primaryKey.map Json.bool
  | _ => none

/-- The keys of properties in the order in which they are written. -/
def propertyKeys : List String :=
  ["field", "type", "allowNull", "defaultValue", "primaryKey"]

theorem properties_eq_filterMap (column : Column) :
    column.properties = propertyKeys.filterMap fun key =>
      (column.property? key).map fun value => (key, value) := rfl

theorem property?_eq_none {key : String} (column : Column)
    (other : key ∉ propertyKeys) : column.property? key = none := by
  simp only [propertyKeys, List.mem_cons, List.not_mem_nil, or_false,
    not_or] at other
  unfold property?
  split <;> simp_all

/-- The written properties have distinct keys. -/
theorem nodup_keysOf_properties (column : Column) :
    (OrderedMap.keysOf column.properties).Nodup := by
  have written (keys : List String) :
      OrderedMap.keysOf (keys.filterMap fun key =>
        (column.property? key).map fun value => (key, value)) =
        keys.filter fun key => (column.property? key).isSome := by
    induction keys with
    | nil => rfl
    | cons key rest inductionHypothesis =>
        cases set : column.property? key <;>
          simp [set, inductionHypothesis]
  rw [properties_eq_filterMap, written]
  have distinct : propertyKeys.Nodup := by decide
  exact distinct.sublist List.filter_sublist

/-- Looking up a key among the written properties. -/
theorem lookup_properties (column : Column) (key : String) :
    column.properties.lookup key = column.property? key := by
  have everyList (keys : List String) :
      (keys.filterMap fun other =>
        (column.property? other).map fun value => (other, value)).lookup key =
        if key ∈ keys then column.property? key else none := by
    induction keys with
    | nil => rfl
    | cons other rest inductionHypothesis =>
        by_cases here : key = other
        · subst here
          cases set : column.property? key <;>
            simp [set, inductionHypothesis]
        · have differs : (key == other) = false := beq_eq_false_iff_ne.mpr here
          cases set : column.property? other <;>
            simp [set, List.lookup_cons, here, differs, inductionHypothesis]
  rw [properties_eq_filterMap, everyList]
  split
  · rfl
  · rename_i other
    exact (property?_eq_none column other).symm

/-! ## Assignments and properties -/

/-- An assignment leaves the properties of other keys alone. -/
theorem property?_assign_of_ne (column : Column) {key other : String}
    (value : Json) (differs : key ≠ other) :
    (column.assign key value).property? other = column.property? other := by
  unfold property?
  split
  · rw [field_assign, if_neg differs]
  · rw [columnType_assign, if_neg differs]
  · rw [allowNull_assign, if_neg differs]
  · rw [defaultValue_assign, if_neg differs]
  · rw [primaryKey_assign, if_neg differs]
  · rfl

/-- A value that is not taken leaves the property of its key unset. -/
theorem property?_assign_of_not_taken (column : Column) {key : String}
    {value : Json} (notTaken : isTaken key value = false) :
    (column.assign key value).property? key = none := by
  unfold property?
  split <;> simp_all [isTaken, field_assign, allowNull_assign,
    primaryKey_assign]

/-- A column in which no key lives in two places and whose type can be
written. -/
structure IsSettled (column : Column) : Prop where
  columnType : ∀ spec, column.columnType = some spec → spec.IsSettled
  options : ∀ key value, column.options.get? key = some value →
    isOption key value = true ∧ column.property? key = none

theorem IsSettled.assign {column : Column} (settled : column.IsSettled)
    (key : String) (value : Json) : (column.assign key value).IsSettled where
  columnType spec given := by
    rw [columnType_assign] at given
    split at given
    · unfold statedType at given
      split at given
      · contradiction
      · rename_i notNull
        rw [Option.some.injEq] at given
        exact given ▸ TypeSpec.isSettled_ofJson (by simpa using notNull)
    · exact settled.columnType spec given
  options other kept given := by
    rw [options_assign] at given
    by_cases isName : key = "name"
    · rw [if_pos isName] at given
      obtain ⟨option, unset⟩ := settled.options other kept given
      have differs : key ≠ other := by
        rintro rfl
        simp [isOption, isName] at option
      exact ⟨option, by rw [property?_assign_of_ne _ _ differs, unset]⟩
    · rw [if_neg isName, settle] at given
      by_cases same : other = key
      · subst same
        cases taken : isTaken other value with
        | true => simp [taken] at given
        | false =>
            have equal : value = kept := by simpa [taken] using given
            subst equal
            exact ⟨by simp [isOption, isName, taken],
              property?_assign_of_not_taken _ taken⟩
      · have before : column.options.get? other = some kept := by
          cases taken : isTaken key value <;> simpa [taken, same] using given
        obtain ⟨option, unset⟩ := settled.options other kept before
        refine ⟨option, ?_⟩
        rw [property?_assign_of_ne _ _ fun equal => same equal.symm, unset]

/-- Merging an object keeps a column settled. -/
theorem IsSettled.merge {column : Column} (settled : column.IsSettled)
    (object : OrderedMap Json) : (column.merge object).IsSettled := by
  have everyList (entries : List (String × Json)) (column : Column)
      (settled : column.IsSettled) :
      (entries.foldl (fun merged entry => merged.assign entry.1 entry.2)
        column).IsSettled := by
    induction entries generalizing column with
    | nil => exact settled
    | cons entry rest inductionHypothesis =>
        exact inductionHypothesis _ (settled.assign entry.1 entry.2)
  exact everyList object.entries column settled

theorem isSettled_empty : empty.IsSettled where
  columnType _ given := nomatch given
  options _ _ kept := nomatch kept

theorem isSettled_ofObject (object : OrderedMap Json) :
    (ofObject object).IsSettled :=
  isSettled_empty.merge object

theorem IsSettled.isOption_of_mem {column : Column}
    (settled : column.IsSettled) {entry : String × Json}
    (member : entry ∈ column.options.entries) :
    isOption entry.1 entry.2 = true :=
  (settled.options entry.1 entry.2
    ((OrderedMap.get?_eq_some_iff _ _ _).mpr member)).1

/-- No key is written twice for a settled column. -/
theorem IsSettled.nodup_written {column : Column}
    (settled : column.IsSettled) :
    (OrderedMap.keysOf (column.properties ++ column.options.entries)).Nodup := by
  rw [OrderedMap.keysOf_append]
  refine List.nodup_append.mpr
    ⟨nodup_keysOf_properties column, column.options.keysDistinct, ?_⟩
  rintro key isProperty other isKept rfl
  obtain ⟨value, kept⟩ := (OrderedMap.mem_keys_iff _ _).mp isKept
  have unset := (settled.options key value kept).2
  rw [← lookup_properties, OrderedMap.lookup_eq_none_iff] at unset
  exact unset isProperty

end Column
end TerseSchema
