import TerseSchema.Compilation.Basic

/-!
# Compiling in place

A compilation in place goes through its descriptors with a progress that
changes on the way.  It remembers whether the primary key is settled, and every
doubt is added to its warnings as it comes up.  The slots of a descriptor change
its name and its column one after the other until they run out, and the schema
takes one column after the other.

A compilation says instead what each descriptor compiles to by itself, and that
the first place is the one of the primary key.  The main statement is `run_eq`:
both give the same schema and the same warnings.
-/

namespace TerseSchema

/-- Store columns under their names one after the other. -/
def Schema.insertAll (schema : Schema) (columns : List (String × Column)) :
    Schema :=
  columns.foldl (fun built entry => built.insert entry.1 entry.2) schema

theorem Schema.columns_insertAll (schema : Schema)
    (columns : List (String × Column)) :
    (schema.insertAll columns).columns = schema.columns.insertAll columns := by
  induction columns generalizing schema with
  | nil => rfl
  | cons entry rest inductionHypothesis =>
      exact inductionHypothesis (schema.insert entry.1 entry.2)

namespace Compilation

/-! ## The progress of a compilation -/

/-- Whether the primary key is settled, and the warnings so far. -/
structure Progress where
  keySettled : Bool
  warnings : List Warning

namespace Progress

/-- The progress before any descriptor.  If no primary key is to be set, there
is nothing left to settle. -/
def start (options : CompileOptions) : Progress :=
  ⟨!options.setPrimaryKey, []⟩

/-- The progress with further warnings. -/
def warned (progress : Progress) (warnings : List Warning) : Progress :=
  { progress with warnings := progress.warnings ++ warnings }

theorem warned_nil (progress : Progress) : progress.warned [] = progress := by
  simp [warned]

theorem warned_append (progress : Progress) (first second : List Warning) :
    progress.warned (first ++ second) =
      (progress.warned first).warned second := by
  simp [warned]

end Progress

/-- A part of a compilation in place. -/
abbrev Operation (α : Type) := StateM Progress α

theorem Operation.run_bind {α β : Type} (first : Operation α)
    (next : α → Operation β) (progress : Progress) :
    (first >>= next).run progress =
      (next (first.run progress).1).run (first.run progress).2 := rfl

namespace InPlace

/-- Add a warning to those so far. -/
def warn (warning : Warning) : Operation Unit :=
  modify fun progress => progress.warned [warning]

/-! ## One descriptor -/

/-- Begin a column.  It becomes the primary key if that is not settled yet. -/
def beginColumn (options : CompileOptions) : Operation Column := do
  let mut column := Column.empty
  if !(← get).keySettled then
    column := { column with primaryKey := some true, allowNull := some true }
    modify fun progress => { progress with keySettled := true }
  if options.allowNull && !column.isPrimaryKey then
    column := { column with allowNull := some true }
  return column

/-- Take the name and the storage field from the first slot. -/
def applyName (slot : NameSlot) (column : Column) :
    Operation (String × Column) := do
  match slot with
  | .identifier name =>
      return (name, { column with field := StorageName.storageField name })
  | .withField name field => return (name, { column with field })
  | .missing => return ("", column)

/-- Set the type of a column, with warnings under the name that it has so
far. -/
def applyType (name : String) (typeSlot : TypeSlot) (column : Column) :
    Operation Column := do
  match typeSlot with
  | .keyword written =>
      let mut column := column
      let spec := TypeSpec.ofKeyword written
      if let .unresolved keyword _ := spec then
        if !written.isBoolean then
          warn (.unresolvedType name keyword)
      if let some (.raw size) := written.size then
        warn (.nonNumericSize name size)
      if let .plain .uuid := spec then
        column := { column with defaultValue := some .freshUuid }
      return { column with columnType := some spec }
  | .direct value => return { column with columnType := some (.direct value) }
  | .absent => return column

/-- Apply the third slot, and after a flag the fourth one.  An object in the
place of a default value goes back to the slots that are left. -/
def applyDefault (typeSlot : TypeSlot) (third : Json) (column : Column)
    (cursor : Cursor) : Operation (Column × Cursor) := do
  let mut column := column
  let mut cursor := cursor
  let mut candidate := none
  match NullDefaultSlot.classify typeSlot third with
  | .booleanDefault stated => candidate := some (.bool stated)
  | .nullFlag allowed =>
      column := { column with allowNull := some allowed }
      (candidate, cursor) := cursor.pop
  | .defaultLiteral literal => candidate := some literal
  match candidate.map DefaultSlot.classify with
  | some (.options value) => cursor := cursor.requeue value
  | some (.literal value) =>
      column := { column with defaultValue := some (.literal value) }
  | none => pure ()
  return (column, cursor)

/-- Rename a column if the options say so, and merge them into it. -/
def mergeOptions (name : String) (column : Column)
    (options : OrderedMap Json) : Operation (String × Column) := do
  let mut name := name
  if let some value := options.get? "name" then
    if !value.isNull then
      name := value.keyText
  return (name, column.merge options)

/-- Apply the options in the next slot, if there are any. -/
def applyOptions (name : String) (column : Column) (cursor : Cursor) :
    Operation (String × Column) := do
  match cursor.pop.1 with
  | some (.object members) => mergeOptions name column (.ofList members)
  | some (.array items) =>
      mergeOptions name column (CompiledColumn.indexedOptions items)
  | _ => return (name, column)

/-- Apply the slots behind the name until they run out. -/
def applySlots (name : String) (column : Column) (cursor : Cursor) :
    Operation (String × Column) := do
  let (some second, afterType) := cursor.pop
    | return (name, column)
  let typeSlot := TypeSlot.classify second
  let typed ← applyType name typeSlot column
  let (some third, rest) := afterType.pop
    | return (name, typed)
  let (defaulted, last) ← applyDefault typeSlot third typed rest
  applyOptions name defaulted last

/-- Compile the descriptor at a place to a name and a column. -/
def build (options : CompileOptions) (index : Nat) (descriptor : Descriptor) :
    Operation (String × Column) := do
  let begun ← beginColumn options
  let (first, cursor) := Cursor.pop ⟨descriptor.values⟩
  let (given, named) ← applyName (NameSlot.classify first) begun
  let (name, column) ← applySlots given named cursor
  if name = "" then
    warn (.emptyName index)
  return (name, column)

/-! ## All descriptors -/

/-- Compile descriptors with their places into a schema. -/
def insertColumns (options : CompileOptions)
    (entries : List (Descriptor × Nat)) (schema : Schema) :
    Operation Schema := do
  let mut schema := schema
  for (descriptor, index) in entries do
    let (name, column) ← build options index descriptor
    schema := schema.insert name column
  return schema

/-- Compile descriptors in place. -/
def run (options : CompileOptions) (descriptors : List Descriptor) :
    Compilation :=
  let (schema, progress) :=
    (insertColumns options descriptors.zipIdx .empty).run (.start options)
  ⟨schema, progress.warnings⟩

/-! ## The parts of a descriptor -/

theorem run_applyName (slot : NameSlot) {column : Column}
    (unset : column.field = none) (progress : Progress) :
    (applyName slot column).run progress =
      (((CompiledColumn.nameAndField slot).1,
        { column with field := (CompiledColumn.nameAndField slot).2 }),
        progress) := by
  unfold applyName CompiledColumn.nameAndField
  cases slot with
  | identifier name => rfl
  | withField name field => rfl
  | missing =>
      dsimp only
      rw [← unset]
      rfl

/-- The warnings are pushed in the order in which the list has them. -/
theorem run_applyType (name : String) (typeSlot : TypeSlot) (column : Column)
    (progress : Progress) :
    (applyType name typeSlot column).run progress =
      (CompiledColumn.withType column typeSlot,
        progress.warned (CompiledColumn.typeWarnings name typeSlot)) := by
  cases typeSlot with
  | keyword written =>
      obtain ⟨keyword, size⟩ := written
      unfold applyType CompiledColumn.withType CompiledColumn.typeWarnings
        TypeSpec.ofKeyword
      dsimp only
      rw [Progress.warned_append]
      cases ColumnType.ofKeyword? keyword with
      | some base =>
          rw [Option.isNone_some, Bool.false_and,
            if_neg Bool.false_ne_true, Progress.warned_nil]
          rcases size with _ | length | text
          · rw [Progress.warned_nil]
            cases base <;> rfl
          · rw [Progress.warned_nil]
            rfl
          · rfl
      | none =>
          rw [Option.isNone_none, Bool.true_and]
          cases TypeKeyword.isBoolean ⟨keyword, size⟩ <;>
            rcases size with _ | length | text <;>
            simp only [Bool.not_true, Bool.not_false, Bool.false_eq_true,
              if_false, if_true, Progress.warned_nil] <;>
            rfl
  | direct value => exact congrArg (Prod.mk _) progress.warned_nil.symm
  | absent => exact congrArg (Prod.mk _) progress.warned_nil.symm

theorem run_applyDefault (typeSlot : TypeSlot) (third : Json) (column : Column)
    (rest : List Json) (progress : Progress) :
    (applyDefault typeSlot third column ⟨rest⟩).run progress =
      (CompiledColumn.readDefault typeSlot column ⟨third :: rest⟩,
        progress) := by
  unfold applyDefault CompiledColumn.readDefault CompiledColumn.withDefault
  dsimp only [Cursor.pop_cons]
  cases NullDefaultSlot.classify typeSlot third with
  | booleanDefault stated => rfl
  | defaultLiteral literal =>
      dsimp only [Option.map_some]
      cases DefaultSlot.classify literal <;> rfl
  | nullFlag allowed =>
      dsimp only
      cases (Cursor.pop ⟨rest⟩).1.map DefaultSlot.classify with
      | none => rfl
      | some slot => cases slot <;> rfl

theorem run_mergeOptions (name : String) (column : Column)
    (options : OrderedMap Json) (progress : Progress) :
    (mergeOptions name column options).run progress =
      ((CompiledColumn.rename name options, column.merge options),
        progress) := by
  unfold mergeOptions CompiledColumn.rename
  cases options.get? "name" with
  | none => rfl
  | some value =>
      dsimp only
      cases value.isNull <;> rfl

/-- To merge no options is to stop. -/
theorem run_applyOptions (name : String) (column : Column) (cursor : Cursor)
    (progress : Progress) :
    (applyOptions name column cursor).run progress =
      ((CompiledColumn.rename name (CompiledColumn.optionsOf cursor.pop.1),
        column.merge (CompiledColumn.optionsOf cursor.pop.1)), progress) := by
  unfold applyOptions
  cases cursor.pop.1 with
  | none => rfl
  | some value =>
      cases value with
      | object members => exact run_mergeOptions name column _ progress
      | array items => exact run_mergeOptions name column _ progress
      | null | bool _ | number _ | string _ => rfl

/-- Wherever the slots run out, the ones that are missing would have changed
nothing. -/
theorem run_applySlots (name : String) (column : Column) (cursor : Cursor)
    (progress : Progress) :
    (applySlots name column cursor).run progress =
      let typeSlot := (cursor.pop.1.map TypeSlot.classify).getD .absent
      let read := CompiledColumn.readDefault typeSlot
        (CompiledColumn.withType column typeSlot) cursor.pop.2
      let extra := CompiledColumn.optionsOf read.2.pop.1
      ((CompiledColumn.rename name extra, read.1.merge extra),
        progress.warned (CompiledColumn.typeWarnings name typeSlot)) := by
  unfold applySlots
  rcases cursor with ⟨_ | ⟨second, slots⟩⟩
  · exact congrArg (Prod.mk _) progress.warned_nil.symm
  · dsimp only [Cursor.pop_cons, Option.map_some, Option.getD_some]
    rw [Operation.run_bind, run_applyType]
    rcases slots with _ | ⟨third, rest⟩
    · rfl
    · dsimp only [Cursor.pop_cons]
      rw [Operation.run_bind, run_applyDefault, run_applyOptions]

end InPlace

/-! ## From place to place -/

/-- What descriptors compile to from a place on. -/
def columnsFrom (options : CompileOptions) (index : Nat)
    (descriptors : List Descriptor) : List CompiledColumn :=
  (descriptors.zipIdx index).map fun entry =>
    CompiledColumn.ofDescriptor options entry.2 entry.1

@[simp] theorem columnsFrom_nil (options : CompileOptions) (index : Nat) :
    columnsFrom options index [] = [] := rfl

@[simp] theorem columnsFrom_cons (options : CompileOptions) (index : Nat)
    (descriptor : Descriptor) (rest : List Descriptor) :
    columnsFrom options index (descriptor :: rest) =
      CompiledColumn.ofDescriptor options index descriptor ::
        columnsFrom options (index + 1) rest := rfl

theorem columnsFrom_zero (options : CompileOptions)
    (descriptors : List Descriptor) :
    columnsFrom options 0 descriptors = columns options descriptors :=
  List.mapIdx_eq_zipIdx_map.symm

/-- The progress before the descriptor at a place: the primary key is left to
settle only before the first one. -/
def Progress.before (options : CompileOptions) (index : Nat)
    (warnings : List Warning) : Progress :=
  ⟨!(options.setPrimaryKey && index == 0), warnings⟩

theorem Progress.before_zero (options : CompileOptions) :
    before options 0 [] = start options := by
  simp [before, start]

namespace InPlace

/-- The column that begins at a place settles the primary key for all later
ones. -/
theorem run_beginColumn (options : CompileOptions) (index : Nat)
    (warnings : List Warning) :
    (beginColumn options).run (.before options index warnings) =
      (CompiledColumn.initial options index,
        .before options (index + 1) warnings) := by
  have settled : Progress.before options (index + 1) warnings =
      ⟨true, warnings⟩ := by
    simp [Progress.before]
  rw [settled]
  unfold beginColumn Progress.before CompiledColumn.initial
  rw [Operation.run_bind]
  cases options.setPrimaryKey && index == 0 <;>
    cases options.allowNull <;> rfl

/-- A descriptor gives the name and the column that it compiles to at its
place, and its warnings follow the ones so far. -/
theorem run_build (options : CompileOptions) (index : Nat)
    (descriptor : Descriptor) (warnings : List Warning) :
    (build options index descriptor).run (.before options index warnings) =
      let compiled := CompiledColumn.ofDescriptor options index descriptor
      ((compiled.name, compiled.column),
        .before options (index + 1) (warnings ++ compiled.warnings)) := by
  unfold build CompiledColumn.ofDescriptor
  rw [Operation.run_bind, run_beginColumn]
  dsimp only
  rw [Operation.run_bind, run_applyName _ rfl]
  dsimp only
  rw [Operation.run_bind, run_applySlots]
  dsimp only
  rw [← List.append_assoc]
  split
  · rw [Operation.run_bind]
    rfl
  · rw [List.append_nil]
    rfl

theorem run_insertColumns_cons (options : CompileOptions) (index : Nat)
    (descriptor : Descriptor) (rest : List (Descriptor × Nat))
    (schema : Schema) (progress : Progress) :
    (insertColumns options ((descriptor, index) :: rest) schema).run progress =
      let built := (build options index descriptor).run progress
      (insertColumns options rest
        (schema.insert built.1.1 built.1.2)).run built.2 := by
  unfold insertColumns
  dsimp only
  rw [List.forIn_cons, Operation.run_bind, Operation.run_bind,
    Operation.run_bind]
  rfl

/-- From any place on, descriptors in place store the columns that they compile
to and add their warnings. -/
theorem run_insertColumns (options : CompileOptions)
    (descriptors : List Descriptor) (index : Nat) (warnings : List Warning)
    (schema : Schema) :
    (insertColumns options (descriptors.zipIdx index) schema).run
        (.before options index warnings) =
      let compiled := columnsFrom options index descriptors
      (schema.insertAll (compiled.map fun each => (each.name, each.column)),
        .before options (index + descriptors.length)
          (warnings ++ compiled.flatMap (·.warnings))) := by
  dsimp only
  -- Place, warnings and schema stay general: each descriptor hands them on.
  induction descriptors generalizing index warnings schema with
  | nil =>
      rw [columnsFrom_nil, List.flatMap_nil, List.append_nil]
      rfl
  | cons descriptor rest inductionHypothesis =>
      rw [List.zipIdx_cons, run_insertColumns_cons, run_build]
      dsimp only
      rw [inductionHypothesis, columnsFrom_cons, List.flatMap_cons,
        List.append_assoc, List.length_cons, Nat.add_assoc,
        Nat.add_comm 1 rest.length]
      rfl

/-- A compilation in place gives the schema and the warnings of the
compilation. -/
theorem run_eq (options : CompileOptions) (descriptors : List Descriptor) :
    run options descriptors = Compilation.run options descriptors := by
  have stored := run_insertColumns options descriptors 0 [] .empty
  rw [Progress.before_zero, columnsFrom_zero] at stored
  unfold run Compilation.run
  rw [stored]
  exact congrArg (Compilation.mk · _)
    (congrArg Schema.mk (Schema.columns_insertAll .empty _))

end InPlace
end Compilation
end TerseSchema
