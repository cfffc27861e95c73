import TerseSchema.Proofs.Compilation.PrimaryKey
import TerseSchema.Proofs.Compilation.Warnings

/-!
# What compile options reach

Two compilations of the same descriptors under different options run side by
side.  They warn of the same things and store columns under the same names, and
the two columns of a name come from the same descriptor.  These differ in
nothing but the flags, which are the permission of null and the primary key:
the options decide them for the column before its slots are read, and the slots
then overwrite both columns alike.
-/

namespace TerseSchema

/-- Columns that agree in everything but the permission of null and the primary
key. -/
structure Column.AgreesBesideFlags (column other : Column) : Prop where
  field : column.field = other.field
  columnType : column.columnType = other.columnType
  defaultValue : column.defaultValue = other.defaultValue
  options : column.options = other.options

/-- Columns with the same primary key, of which the second one allows null
wherever it differs from the first one, which leaves this open. -/
structure Column.RelaxesTo (column other : Column) : Prop where
  primaryKey : column.primaryKey = other.primaryKey
  allowNull : column.allowNull = other.allowNull ∨
    (column.allowNull = none ∧ other.allowNull = some true)

/-! ## One column under two options -/

namespace Column

variable {column other : Column}

/-- Options that are merged into both columns keep them in agreement. -/
theorem AgreesBesideFlags.merge (agree : column.AgreesBesideFlags other)
    (bare : column.options = .empty) (object : OrderedMap Json) :
    (column.merge object).AgreesBesideFlags (other.merge object) where
  field := by rw [field_merge, field_merge, agree.field]
  columnType := by rw [columnType_merge, columnType_merge, agree.columnType]
  defaultValue := by
    rw [defaultValue_merge, defaultValue_merge, agree.defaultValue]
  options := by
    apply OrderedMap.ext
    rw [entries_options_merge object bare,
      entries_options_merge object (agree.options ▸ bare)]

/-- A permission that is merged into both columns makes them equal in it. -/
theorem RelaxesTo.merge (relaxes : column.RelaxesTo other)
    (object : OrderedMap Json) :
    (column.merge object).RelaxesTo (other.merge object) where
  primaryKey := by
    rw [primaryKey_merge, primaryKey_merge, relaxes.primaryKey]
  allowNull := by
    rw [allowNull_merge, allowNull_merge]
    cases object.get? "allowNull" with
    | none => exact relaxes.allowNull
    | some value => exact Or.inl rfl

end Column

namespace Positional

variable (slots : List Json) (first second : CompileOptions) (index : Nat)

theorem base_agreesBesideFlags :
    (base slots first index).AgreesBesideFlags (base slots second index) :=
  ⟨rfl, rfl, rfl, rfl⟩

/-- Behind the first place the choice of a primary key does not count. -/
theorem base_congr (sameNull : first.allowNull = second.allowNull)
    (behind : index ≠ 0) :
    base slots first index = base slots second index := by
  have notKey (options : CompileOptions) :
      isAutomaticKey options index = false := by
    simp [isAutomaticKey, behind]
  unfold base
  rw [notKey, notKey, sameNull]

/-- A baseline that allows null shows where no flag in the third slot and no
primary key decides. -/
theorem base_relaxesTo (sameKey : first.setPrimaryKey = second.setPrimaryKey)
    (strict : first.allowNull = false) (lax : second.allowNull = true) :
    (base slots first index).RelaxesTo (base slots second index) := by
  have sameAutomatic :
      isAutomaticKey first index = isAutomaticKey second index := by
    rw [isAutomaticKey, isAutomaticKey, sameKey]
  constructor
  · rw [base, base, sameAutomatic]
  · rw [base, base, sameAutomatic, strict, lax]
    cases flag? slots with
    | some allowed => exact Or.inl rfl
    | none =>
        cases isAutomaticKey second index with
        | true => exact Or.inl rfl
        | false => exact Or.inr ⟨rfl, rfl⟩

end Positional

namespace CompiledColumn

variable (first second : CompileOptions) (index : Nat)
  (descriptor : Descriptor)

theorem column_ofDescriptor_agreesBesideFlags :
    (ofDescriptor first index descriptor).column.AgreesBesideFlags
      (ofDescriptor second index descriptor).column := by
  rw [column_ofDescriptor, column_ofDescriptor]
  exact (Positional.base_agreesBesideFlags _ _ _ _).merge rfl _

theorem column_ofDescriptor_congr (sameNull : first.allowNull = second.allowNull)
    (behind : index ≠ 0) :
    (ofDescriptor first index descriptor).column =
      (ofDescriptor second index descriptor).column := by
  rw [column_ofDescriptor, column_ofDescriptor,
    Positional.base_congr _ first second index sameNull behind]

theorem column_ofDescriptor_relaxesTo
    (sameKey : first.setPrimaryKey = second.setPrimaryKey)
    (strict : first.allowNull = false) (lax : second.allowNull = true) :
    (ofDescriptor first index descriptor).column.RelaxesTo
      (ofDescriptor second index descriptor).column := by
  rw [column_ofDescriptor, column_ofDescriptor]
  exact (Positional.base_relaxesTo _ _ _ _ sameKey strict lax).merge _

end CompiledColumn

/-! ## Two compilations -/

/-- Two compilations of the same descriptors warn of the same things and give
the same names in the same order, and the columns of a name differ in nothing
but the permission of null and the primary key.

If the options differ in the choice of a primary key alone, so does at most the
column of the first descriptor, where it survives.  If the second options allow
null where the first ones do not, the primary keys are the same, and a column
either allows null under both alike or leaves this open under the first options
and allows null under the second ones. -/
theorem compile_options_reach (first second : CompileOptions)
    (descriptors : List Descriptor) :
    (Compilation.run first descriptors).warnings =
        (Compilation.run second descriptors).warnings ∧
      (compile first descriptors).names =
        (compile second descriptors).names ∧
      ∀ name column other,
        (compile first descriptors).get? name = some column →
        (compile second descriptors).get? name = some other →
        column.AgreesBesideFlags other ∧
          (first.allowNull = second.allowNull →
            column = other ∨
              Compilation.FirstSurvives first descriptors name) ∧
          (first.setPrimaryKey = second.setPrimaryKey →
            first.allowNull = false → second.allowNull = true →
            column.RelaxesTo other) := by
  refine ⟨?_, ?_, ?_⟩
  · rw [Compilation.warnings_run, Compilation.warnings_run]
  · rw [Compilation.names_compile, Compilation.names_compile]
  · intro name column other stored otherStored
    obtain ⟨index, descriptor, -, isFirst, source⟩ :=
      Compilation.exists_source stored
    obtain rfl := Option.some.inj ((source first).symm.trans stored)
    obtain rfl := Option.some.inj ((source second).symm.trans otherStored)
    refine ⟨CompiledColumn.column_ofDescriptor_agreesBesideFlags _ _ _ _, ?_,
      CompiledColumn.column_ofDescriptor_relaxesTo _ _ _ _⟩
    intro sameNull
    by_cases atFront : index = 0
    · exact Or.inr (isFirst.mp atFront)
    · exact Or.inl
        (CompiledColumn.column_ofDescriptor_congr _ _ _ _ sameNull atFront)

end TerseSchema
