import TerseSchema.Proofs.Column.LastObject
import TerseSchema.Proofs.Column.Respelling

/-!
# Columns made of objects are canonical

A column that is made of an object, and any objects merged into it, is read
back from its own JSON value as it is, options in the same order.  What a first
reading can change it has changed: no type is an unresolved keyword, no default
value is the text of the marker, and a type with a padded length is written
without the padding.
-/

namespace TerseSchema

/-- A type that was read once is not changed by another reading. -/
theorem TypeSpec.ofJson_toJson_ofJson (value : Json) :
    ofJson (ofJson value).toJson = ofJson value := by
  cases given : value.isNull with
  | true =>
      cases value with
      | null => rfl
      | bool _ | number _ | string _ | array _ | object _ => contradiction
  | false =>
      exact (ofJson_toJson_iff (isSettled_ofJson given)).mpr
        (isUnresolved_ofJson value)

namespace Column

/-- A column that its own JSON value is read back as. -/
structure IsCanonical (column : Column) : Prop where
  settled : column.IsSettled
  faithful : column.IsFaithful

theorem isFaithful_empty : empty.IsFaithful :=
  ⟨fun _ given => (nomatch given), nofun⟩

/-- Merging an object keeps a column faithful: what the object states is read
from a value. -/
theorem IsFaithful.merge {column : Column} (faithful : column.IsFaithful)
    (object : OrderedMap Json) : (column.merge object).IsFaithful where
  left spec given := by
    rw [columnType_merge] at given
    cases stated : object.get? "type" with
    | none =>
        rw [stated] at given
        exact faithful.1 spec given
    | some value =>
        rw [stated, Option.elim_some, statedType] at given
        split at given
        · contradiction
        · exact Option.some.inj given ▸ TypeSpec.isUnresolved_ofJson value
  right := by
    rw [defaultValue_merge]
    cases object.get? "defaultValue" with
    | none => exact faithful.2
    | some value =>
        intro marker
        exact DefaultValue.ofJson_ne_marker value (Option.some.inj marker)

theorem IsCanonical.merge {column : Column} (canonical : column.IsCanonical)
    (object : OrderedMap Json) : (column.merge object).IsCanonical :=
  ⟨canonical.settled.merge object, canonical.faithful.merge object⟩

/-- Whatever objects are merged into a canonical column, it stays canonical. -/
theorem IsCanonical.mergeAll {column : Column}
    (canonical : column.IsCanonical) (objects : List (OrderedMap Json)) :
    (column.mergeAll objects).IsCanonical := by
  induction objects generalizing column with
  | nil => exact canonical
  | cons object rest inductionHypothesis =>
      exact inductionHypothesis (canonical.merge object)

theorem isCanonical_ofObject (object : OrderedMap Json) :
    (ofObject object).IsCanonical :=
  IsCanonical.merge ⟨isSettled_empty, isFaithful_empty⟩ object

theorem IsCanonical.readBack_eq {column : Column}
    (canonical : column.IsCanonical) : column.readBack = column :=
  (readBack_eq_iff canonical.settled).mpr canonical.faithful

/-- The column of an object into which others were merged is written with each
key once.  What was written is read back as the same column, options in the
same order, and is written as the same value again.

Reading changes the text of a type exactly if it spells out an abstract type
with a padded length, and never a second time. -/
theorem mergeAll_ofObject_canonical (object : OrderedMap Json)
    (objects : List (OrderedMap Json)) :
    (∃ members,
      ((ofObject object).mergeAll objects).toJson = .object members ∧
        (OrderedMap.keysOf members).Nodup ∧
        ofObject (.ofList members) = (ofObject object).mergeAll objects ∧
        (ofObject (.ofList members)).options.entries =
          ((ofObject object).mergeAll objects).options.entries ∧
        (ofObject (.ofList members)).toJson = .object members) ∧
      ofJson? ((ofObject object).mergeAll objects).toJson =
        some ((ofObject object).mergeAll objects) ∧
      (∀ text,
        (TypeSpec.ofJson (.string text)).toJson ≠ .string text ↔
          TypeSpec.SpellsPaddedLength text) ∧
      ∀ value, TypeSpec.ofJson (TypeSpec.ofJson value).toJson =
        TypeSpec.ofJson value := by
  have canonical := (isCanonical_ofObject object).mergeAll objects
  generalize (ofObject object).mergeAll objects = column at canonical
  have copy : ofObject (.ofList (column.properties ++ column.options.entries)) =
      column :=
    (ofObject_written canonical.settled).trans canonical.readBack_eq
  refine ⟨⟨column.properties ++ column.options.entries, rfl,
    canonical.settled.nodup_written, copy, ?_, ?_⟩, ?_, ?_,
    TypeSpec.ofJson_toJson_ofJson⟩
  · rw [copy]
  · rw [copy]
    rfl
  · exact congrArg some copy
  · intro text
    rw [Ne, TypeSpec.toJson_ofJson_string_iff, not_not]

example : (TypeSpec.ofJson (.string "STRING(+5)")).toJson =
    .string "STRING(5)" := rfl

example : (TypeSpec.ofJson (.string "DECIMAL(010)")).toJson =
    .string "DECIMAL(10)" := rfl

end Column
end TerseSchema
