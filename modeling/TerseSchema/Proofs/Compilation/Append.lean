import TerseSchema.Proofs.Compilation.InPlace
import TerseSchema.Proofs.Compilation.Positional
import TerseSchema.Proofs.OrderedMap.LastWrite

/-!
# Compiling in parts

A list of descriptors may be compiled in two parts.  The second part has no
first descriptor of its own, so none of its columns becomes the primary key by
itself, and the places in its warnings count on from the first part.  Its
columns are then inserted into the schema of the first part in their order.

The reason is that what a descriptor compiles to depends on the descriptor and
the options, and of its place only on whether it is the first one.  This holds
although a compilation in place hands its progress on from one descriptor to the
next.
-/

namespace TerseSchema

/-- The options of a part that has other descriptors in front of it. -/
def CompileOptions.continued (options : CompileOptions) : CompileOptions :=
  { options with setPrimaryKey := false }

/-- A warning about a descriptor that has others in front of it. -/
def Warning.shift (count : Nat) : Warning → Warning
  | .emptyName index => .emptyName (index + count)
  | .unresolvedType column keyword => .unresolvedType column keyword
  | .nonNumericSize column size => .nonNumericSize column size

/-! ## One descriptor -/

namespace CompiledColumn

/-- What a descriptor compiles to if it has others in front of it. -/
def shift (count : Nat) (compiled : CompiledColumn) : CompiledColumn :=
  { compiled with warnings := compiled.warnings.map (Warning.shift count) }

/-- Warnings about a type do not mention places. -/
theorem map_shift_typeWarnings (count : Nat) (name : String)
    (typeSlot : TypeSlot) :
    (typeWarnings name typeSlot).map (Warning.shift count) =
      typeWarnings name typeSlot := by
  unfold typeWarnings
  split
  · rw [List.map_append]
    congr 1
    · split <;> rfl
    · split <;> rfl
  · rfl

/-- A descriptor behind others compiles like one of a part of its own. -/
theorem ofDescriptor_add (options : CompileOptions) (count index : Nat)
    (descriptor : Descriptor) :
    ofDescriptor options (index + (count + 1)) descriptor =
      (ofDescriptor options.continued index descriptor).shift (count + 1) := by
  have start : initial options (index + (count + 1)) =
      initial options.continued index := by
    simp [initial, CompileOptions.continued]
  have places (name : String) :
      (if name = "" then [Warning.emptyName (index + (count + 1))] else []) =
        (if name = "" then [Warning.emptyName index] else []).map
          (Warning.shift (count + 1)) := by
    split <;> rfl
  unfold ofDescriptor shift
  simp only [start, places, List.map_append, map_shift_typeWarnings]

/-- A place counts only by being the first one or not. -/
theorem ofDescriptor_congr (options : CompileOptions) {index other : Nat}
    (alike : index = 0 ↔ other = 0) (descriptor : Descriptor) :
    (ofDescriptor options index descriptor).name =
        (ofDescriptor options other descriptor).name ∧
      (ofDescriptor options index descriptor).column =
        (ofDescriptor options other descriptor).column := by
  have start : initial options index = initial options other := by
    simp [initial, alike]
  unfold ofDescriptor
  simp only [start, and_self]

theorem name_ofDescriptor (options : CompileOptions) (index : Nat)
    (descriptor : Descriptor) :
    (ofDescriptor options index descriptor).name =
      Positional.name descriptor.values :=
  (Positional.ofDescriptor_eq_merge options index descriptor).1

theorem column_ofDescriptor (options : CompileOptions) (index : Nat)
    (descriptor : Descriptor) :
    (ofDescriptor options index descriptor).column =
      (Positional.base descriptor.values options index).merge
        (Positional.options descriptor.values) :=
  (Positional.ofDescriptor_eq_merge options index descriptor).2

end CompiledColumn

/-! ## Lists of descriptors -/

/-- An image stands among others exactly if its item does, at the same
place. -/
theorem mapIdx_eq_append_cons_iff {α β : Type} {function : Nat → α → β}
    {items : List α} {front back : List β} {image : β} :
    items.mapIdx function = front ++ image :: back ↔
      ∃ before item after, items = before ++ item :: after ∧
        before.mapIdx function = front ∧
        function before.length item = image ∧
        (after.mapIdx fun index => function (index + 1 + before.length)) =
          back := by
  constructor
  · intro whole
    obtain ⟨before, rest, rfl, first, remaining⟩ :=
      List.mapIdx_eq_append_iff.mp whole
    obtain ⟨item, after, rfl, here, last⟩ :=
      List.mapIdx_eq_cons_iff.mp remaining
    rw [Nat.zero_add] at here
    exact ⟨before, item, after, rfl, first, here, last⟩
  · rintro ⟨before, item, after, rfl, rfl, rfl, rfl⟩
    rw [List.mapIdx_append, List.mapIdx_cons, Nat.zero_add]

namespace Compilation

theorem columns_append (options : CompileOptions) (head : Descriptor)
    (tail second : List Descriptor) :
    columns options (head :: tail ++ second) =
      columns options (head :: tail) ++
        (columns options.continued second).map
          (CompiledColumn.shift (head :: tail).length) := by
  unfold columns
  rw [List.mapIdx_append]
  congr 1
  simp only [List.mapIdx_eq_zipIdx_map, List.map_map]
  apply List.map_congr_left
  rintro ⟨descriptor, index⟩ _
  exact CompiledColumn.ofDescriptor_add options tail.length index descriptor

/-- The named columns of descriptors, in order. -/
def entries (options : CompileOptions) (descriptors : List Descriptor) :
    List (String × Column) :=
  (columns options descriptors).map fun each => (each.name, each.column)

theorem columns_compile (options : CompileOptions)
    (descriptors : List Descriptor) :
    (compile options descriptors).columns =
      .ofList (entries options descriptors) := rfl

theorem entries_append (options : CompileOptions) (head : Descriptor)
    (tail second : List Descriptor) :
    entries options (head :: tail ++ second) =
      entries options (head :: tail) ++ entries options.continued second := by
  unfold entries
  rw [columns_append, List.map_append, List.map_map]
  rfl

theorem entries_eq_mapIdx (options : CompileOptions)
    (descriptors : List Descriptor) :
    entries options descriptors =
      descriptors.mapIdx fun index descriptor =>
        (Positional.name descriptor.values,
          (CompiledColumn.ofDescriptor options index descriptor).column) := by
  simp only [entries, columns, List.mapIdx_eq_zipIdx_map, List.map_map,
    Function.comp_def, CompiledColumn.name_ofDescriptor]

/-- The columns play no part in the names of descriptors. -/
theorem keysOf_mapIdx (descriptors : List Descriptor)
    (column : Nat → Descriptor → Column) :
    OrderedMap.keysOf (descriptors.mapIdx fun index descriptor =>
      (Positional.name descriptor.values, column index descriptor)) =
      descriptors.map fun descriptor => Positional.name descriptor.values := by
  apply List.ext_getElem?
  intro index
  simp [OrderedMap.keysOf, Function.comp_def]

/-- Names stand in the order in which descriptors first have them. -/
theorem names_compile (options : CompileOptions)
    (descriptors : List Descriptor) :
    (compile options descriptors).names =
      (descriptors.map fun descriptor =>
        Positional.name descriptor.values).eraseDups := by
  rw [Schema.names, columns_compile, OrderedMap.keys_ofList,
    entries_eq_mapIdx, keysOf_mapIdx]

/-- The last descriptor of a name gives its column. -/
theorem get?_compile_eq_some_iff (options : CompileOptions)
    (descriptors : List Descriptor) (name : String) (column : Column) :
    (compile options descriptors).get? name = some column ↔
      ∃ front descriptor back, descriptors = front ++ descriptor :: back ∧
        Positional.name descriptor.values = name ∧
        (∀ later ∈ back, Positional.name later.values ≠ name) ∧
        column =
          (CompiledColumn.ofDescriptor options front.length
            descriptor).column := by
  have absent (back : List Descriptor) (stored : Nat → Descriptor → Column) :
      name ∉ OrderedMap.keysOf (back.mapIdx fun index later =>
          (Positional.name later.values, stored index later)) ↔
        ∀ later ∈ back, Positional.name later.values ≠ name := by
    rw [keysOf_mapIdx]
    simp
  rw [Schema.get?, columns_compile, OrderedMap.get?_ofList_eq_some_iff,
    entries_eq_mapIdx]
  constructor
  · rintro ⟨_, _, whole, others⟩
    obtain ⟨front, descriptor, back, rfl, -, here, rfl⟩ :=
      mapIdx_eq_append_cons_iff.mp whole
    obtain ⟨named, stored⟩ := Prod.mk.inj here
    exact ⟨front, descriptor, back, rfl, named, (absent back _).mp others,
      stored.symm⟩
  · rintro ⟨front, descriptor, back, rfl, rfl, others, rfl⟩
    refine ⟨_, _, mapIdx_eq_append_cons_iff.mpr
      ⟨front, descriptor, back, rfl, rfl, rfl, rfl⟩, ?_⟩
    exact (absent back fun index later =>
      (CompiledColumn.ofDescriptor options (index + 1 + front.length)
        later).column).mpr others

end Compilation

/-- Compiling a list of descriptors in two parts, the first of which is not
empty: the columns of the second part are inserted into the schema of the first
one, and the warnings of the second part follow with their places counted on.

A descriptor gives the same name and column wherever it stands, except that it
may be the first one.  Names stand in the order in which descriptors first have
them, no name occurs twice, and a name has the column of its last descriptor.
All of this is said of compilations in place as well, since they give the same
schema and warnings. -/
theorem compile_append (options : CompileOptions) (head : Descriptor)
    (tail second : List Descriptor) :
    compile options (head :: tail ++ second) =
        (compile options (head :: tail)).insertAll
          (compile options.continued second).toList ∧
      (Compilation.run options (head :: tail ++ second)).warnings =
        (Compilation.run options (head :: tail)).warnings ++
          (Compilation.run options.continued second).warnings.map
            (Warning.shift (head :: tail).length) ∧
      (∀ index other descriptor, (index = 0 ↔ other = 0) →
        (CompiledColumn.ofDescriptor options index descriptor).name =
            (CompiledColumn.ofDescriptor options other descriptor).name ∧
          (CompiledColumn.ofDescriptor options index descriptor).column =
            (CompiledColumn.ofDescriptor options other descriptor).column) ∧
      (∀ partOptions descriptors,
        Compilation.InPlace.run partOptions descriptors =
          Compilation.run partOptions descriptors) ∧
      ∀ descriptors,
        (compile options descriptors).names =
            (descriptors.map fun descriptor =>
              Positional.name descriptor.values).eraseDups ∧
          (compile options descriptors).names.Nodup ∧
          ∀ name column,
            (compile options descriptors).get? name = some column ↔
              ∃ front descriptor back,
                descriptors = front ++ descriptor :: back ∧
                Positional.name descriptor.values = name ∧
                (∀ later ∈ back, Positional.name later.values ≠ name) ∧
                column =
                  (CompiledColumn.ofDescriptor options front.length
                    descriptor).column := by
  refine ⟨?_, ?_, ?_, Compilation.InPlace.run_eq, ?_⟩
  · have columns : (compile options (head :: tail ++ second)).columns =
        ((compile options (head :: tail)).insertAll
          (compile options.continued second).toList).columns := by
      rw [Schema.columns_insertAll, Schema.toList,
        Compilation.columns_compile, Compilation.columns_compile,
        Compilation.columns_compile, OrderedMap.insertAll_entries_ofList,
        Compilation.entries_append, OrderedMap.ofList_append]
    exact congrArg Schema.mk columns
  · unfold Compilation.run
    dsimp only
    rw [Compilation.columns_append, List.flatMap_append, List.flatMap_map,
      List.map_flatMap]
    rfl
  · exact fun index other descriptor alike =>
      CompiledColumn.ofDescriptor_congr options alike descriptor
  · exact fun descriptors => ⟨Compilation.names_compile options descriptors,
      (compile options descriptors).columns.keysDistinct,
      Compilation.get?_compile_eq_some_iff options descriptors⟩

end TerseSchema
