import TerseSchema.Proofs.Compilation.Append

/-!
# Primary keys of compiled schemas

By itself a compilation flags one column, the one of the first descriptor.  The
flag is in the schema as long as the column is: a later descriptor that ends up
with the same name, be it by a rename, puts a column without the flag in its
place.  Unless options state flags of their own, a schema thus has at most one
primary key, and that one stands first.

Which descriptor a stored column comes from does not depend on the compile
options, so two compilations of the same descriptors can be compared column by
column.
-/

namespace TerseSchema

/-! ## Stated options -/

namespace Positional

/-- The keys of the object in the options slot, if the slot holds one. -/
def optionKeys (slots : List Json) : List String :=
  match optionsSlot? slots with
  | some (.object members) => OrderedMap.keysOf members
  | _ => []

/-- A key that the object in the options slot does not have is not among the
options, unless it could be the place of an item. -/
theorem get?_options_eq_none {slots : List Json} {key : String}
    (absent : key ∉ optionKeys slots)
    (notPlace : key.toList.all Char.isDigit = false) :
    (options slots).get? key = none := by
  unfold optionKeys at absent
  unfold options
  split
  · rename_i members slot
    rw [slot] at absent
    rw [← OrderedMap.not_mem_keys_iff, OrderedMap.keys_ofList,
      List.mem_eraseDups]
    exact absent
  · exact get?_numbered _ notPlace
  · rfl

end Positional

/-- A descriptor that states no flag gives a primary key exactly if its column
becomes one on its own. -/
theorem CompiledColumn.isPrimaryKey_ofDescriptor (options : CompileOptions)
    (index : Nat) {descriptor : Descriptor}
    (unstated : "primaryKey" ∉ Positional.optionKeys descriptor.values) :
    (ofDescriptor options index descriptor).column.isPrimaryKey =
      Positional.isAutomaticKey options index := by
  rw [column_ofDescriptor, Column.isPrimaryKey, Column.primaryKey_merge,
    Positional.get?_options_eq_none unstated (by decide), Option.elim_none]
  unfold Positional.base
  cases Positional.isAutomaticKey options index <;> rfl

/-! ## Sources of stored columns -/

namespace Compilation

/-- The names under which the columns of descriptors are stored, in order. -/
def finalNames (options : CompileOptions) (descriptors : List Descriptor) :
    List String :=
  (columns options descriptors).map CompiledColumn.name

theorem finalNames_eq_map (options : CompileOptions)
    (descriptors : List Descriptor) :
    finalNames options descriptors =
      descriptors.map fun descriptor => Positional.name descriptor.values := by
  have names : finalNames options descriptors =
      OrderedMap.keysOf (entries options descriptors) := by
    simp only [finalNames, OrderedMap.keysOf, entries, List.map_map,
      Function.comp_def]
  rw [names, entries_eq_mapIdx, keysOf_mapIdx]

/-- Whether the column of a name is the one of the first descriptor: the first
descriptor has the name, and no later one has it. -/
def FirstSurvives (options : CompileOptions) (descriptors : List Descriptor)
    (name : String) : Prop :=
  ∃ later, finalNames options descriptors = name :: later ∧ name ∉ later

/-- The descriptor whose column is stored under a name is at the front exactly
if it is the first one and survives. -/
theorem firstSurvives_iff_front_eq_nil (options : CompileOptions)
    {front back : List Descriptor} {descriptor : Descriptor} {name : String}
    (named : Positional.name descriptor.values = name)
    (last : ∀ later ∈ back, Positional.name later.values ≠ name) :
    FirstSurvives options (front ++ descriptor :: back) name ↔ front = [] := by
  unfold FirstSurvives
  rw [finalNames_eq_map, List.map_append, List.map_cons, named]
  constructor
  · rintro ⟨later, whole, absent⟩
    by_contra nonempty
    obtain ⟨first, others, rfl⟩ := List.exists_cons_of_ne_nil nonempty
    obtain ⟨-, rfl⟩ := List.cons.inj whole
    exact absent (List.mem_append_right _ List.mem_cons_self)
  · rintro rfl
    refine ⟨_, rfl, ?_⟩
    simpa using last

/-- Each stored column comes from one descriptor, which does not depend on the
options, and the place of that descriptor is the first one exactly if the first
descriptor survives. -/
theorem exists_source {options : CompileOptions}
    {descriptors : List Descriptor} {name : String} {column : Column}
    (stored : (compile options descriptors).get? name = some column) :
    ∃ index, ∃ descriptor ∈ descriptors,
      (index = 0 ↔ FirstSurvives options descriptors name) ∧
      ∀ others, (compile others descriptors).get? name =
        some (CompiledColumn.ofDescriptor others index descriptor).column := by
  obtain ⟨front, descriptor, back, rfl, named, last, -⟩ :=
    (get?_compile_eq_some_iff _ _ _ _).mp stored
  refine ⟨front.length, descriptor, ?_, ?_, fun others => ?_⟩
  · exact List.mem_append_right _ List.mem_cons_self
  · rw [firstSurvives_iff_front_eq_nil options named last,
      List.length_eq_zero_iff]
  · exact (get?_compile_eq_some_iff _ _ _ _).mpr
      ⟨front, descriptor, back, rfl, named, last, rfl⟩

/-- The name of the first descriptor stands first. -/
theorem FirstSurvives.head?_toList {options : CompileOptions}
    {descriptors : List Descriptor} {name : String}
    (survives : FirstSurvives options descriptors name) :
    ∃ column,
      (compile options descriptors).toList.head? = some (name, column) := by
  obtain ⟨later, whole, -⟩ := survives
  have names := names_compile options descriptors
  rw [← finalNames_eq_map options, whole, List.eraseDups_cons] at names
  have first : (compile options descriptors).toList.head?.map Prod.fst =
      some name := by
    rw [← List.head?_map]
    exact congrArg List.head? names
  obtain ⟨⟨_, column⟩, found, rfl⟩ := Option.map_eq_some_iff.mp first
  exact ⟨column, found⟩

end Compilation

/-! ## The flagged columns -/

namespace Schema

/-- The named columns flagged as primary key, in order. -/
def primaryKeys (schema : Schema) : List (String × Column) :=
  schema.toList.filter fun entry => entry.2.isPrimaryKey

theorem primaryKey?_eq_head? (schema : Schema) :
    schema.primaryKey? = schema.primaryKeys.head? :=
  List.head?_filter.symm

end Schema

section

variable {options : CompileOptions} {descriptors : List Descriptor}
  (unstated : ∀ descriptor ∈ descriptors,
    "primaryKey" ∉ Positional.optionKeys descriptor.values)
include unstated

/-- A stored column is flagged exactly if it is the one of the first descriptor
and a primary key is to be set. -/
theorem isPrimaryKey_iff_of_mem_compile {entry : String × Column}
    (member : entry ∈ (compile options descriptors).toList) :
    entry.2.isPrimaryKey = true ↔ options.setPrimaryKey = true ∧
      Compilation.FirstSurvives options descriptors entry.1 := by
  have stored := (OrderedMap.get?_eq_some_iff _ entry.1 entry.2).mpr member
  obtain ⟨index, descriptor, given, first, source⟩ :=
    Compilation.exists_source stored
  obtain same := Option.some.inj (stored.symm.trans (source options))
  rw [same, CompiledColumn.isPrimaryKey_ofDescriptor _ _
      (unstated descriptor given), ← first]
  simp [Positional.isAutomaticKey]

/-- The column of the first descriptor is the only flagged one if it survives
and a primary key is to be set. -/
theorem primaryKeys_eq_singleton {name : String}
    (isSet : options.setPrimaryKey = true)
    (survives : Compilation.FirstSurvives options descriptors name) :
    ∃ column,
      (compile options descriptors).toList.head? = some (name, column) ∧
      (compile options descriptors).primaryKeys = [(name, column)] := by
  obtain ⟨column, first⟩ := survives.head?_toList
  refine ⟨column, first, ?_⟩
  obtain ⟨rest, whole⟩ := List.head?_eq_some_iff.mp first
  have distinct : (OrderedMap.keysOf ((name, column) :: rest)).Nodup :=
    whole ▸ (compile options descriptors).columns.keysDistinct
  have flagged : column.isPrimaryKey = true :=
    (isPrimaryKey_iff_of_mem_compile unstated
      (whole ▸ List.mem_cons_self)).mpr ⟨isSet, survives⟩
  -- A flagged column behind it would have the name of the first descriptor too.
  have others : ∀ entry ∈ rest, ¬entry.2.isPrimaryKey = true := by
    intro entry member alsoFlagged
    obtain ⟨-, later, alsoWhole, -⟩ :=
      (isPrimaryKey_iff_of_mem_compile unstated
        (whole ▸ List.mem_cons_of_mem _ member)).mp alsoFlagged
    obtain ⟨_, namesWhole, -⟩ := survives
    have sameName : entry.1 = name :=
      (List.cons.inj (alsoWhole.symm.trans namesWhole)).1
    have present : entry.1 ∈ OrderedMap.keysOf rest :=
      List.mem_map_of_mem member
    exact (List.nodup_cons.mp distinct).1 (sameName ▸ present)
  unfold Schema.primaryKeys
  rw [whole, List.filter_cons, if_pos flagged,
    List.filter_eq_nil_iff.mpr others]

/-- No column is flagged if none is to be or the one of the first descriptor
was replaced. -/
theorem primaryKeys_eq_nil
    (unflagged : ¬(options.setPrimaryKey = true ∧
      ∃ name, Compilation.FirstSurvives options descriptors name)) :
    (compile options descriptors).primaryKeys = [] := by
  apply List.filter_eq_nil_iff.mpr
  intro entry member flagged
  obtain ⟨isSet, survives⟩ :=
    (isPrimaryKey_iff_of_mem_compile unstated member).mp flagged
  exact unflagged ⟨isSet, entry.1, survives⟩

end

/-- Unless the object in an options slot states a flag, a compiled schema has
at most one primary key.  It has one exactly if it is to be set, there is a
first descriptor, and no later descriptor ends up with its name.  This one is
the first column, it has the name of the first descriptor, and it is the one
that the schema gives as its primary key. -/
theorem compile_primaryKeys (options : CompileOptions)
    (descriptors : List Descriptor)
    (unstated : ∀ descriptor ∈ descriptors,
      "primaryKey" ∉ Positional.optionKeys descriptor.values) :
    (compile options descriptors).primaryKeys.length ≤ 1 ∧
      ((compile options descriptors).primaryKeys.length = 1 ↔
        options.setPrimaryKey = true ∧
          ∃ name, Compilation.FirstSurvives options descriptors name) ∧
      (∀ name column,
        (name, column) ∈ (compile options descriptors).primaryKeys →
        Compilation.FirstSurvives options descriptors name ∧
          (compile options descriptors).toList.head? = some (name, column) ∧
          (compile options descriptors).primaryKey? = some (name, column)) ∧
      ((compile options descriptors).primaryKeys = [] →
        (compile options descriptors).primaryKey? = none) := by
  rw [Schema.primaryKey?_eq_head?]
  by_cases flagged : options.setPrimaryKey = true ∧
      ∃ name, Compilation.FirstSurvives options descriptors name
  · obtain ⟨isSet, name, survives⟩ := flagged
    obtain ⟨column, first, single⟩ :=
      primaryKeys_eq_singleton unstated isSet survives
    rw [single]
    refine ⟨le_rfl, iff_of_true rfl ⟨isSet, name, survives⟩, ?_, by simp⟩
    intro other otherColumn member
    obtain ⟨rfl, rfl⟩ := Prod.mk.inj (List.mem_singleton.mp member)
    exact ⟨survives, first, rfl⟩
  · rw [primaryKeys_eq_nil unstated flagged]
    refine ⟨Nat.zero_le _, iff_of_false (by simp) flagged, ?_, fun _ => rfl⟩
    intro name column member
    exact absurd member List.not_mem_nil

/-- A column that is renamed to the name of the first one takes the primary key
away, and a column that is renamed to another name leaves it in place. -/
theorem primaryKeys_of_renamed_second :
    let renamed (name : String) := [Descriptor.slots [.string "id"],
      .slots [.string "tag", .string "s",
        .object [("name", .string name)]]]
    (∀ name, ∀ descriptor ∈ renamed name,
      "primaryKey" ∉ Positional.optionKeys descriptor.values) ∧
    (compile .standard (renamed "label")).primaryKeys.length = 1 ∧
    (compile .standard (renamed "id")).primaryKey? = none := by
  intro renamed
  have unstated : ∀ name, ∀ descriptor ∈ renamed name,
      "primaryKey" ∉ Positional.optionKeys descriptor.values := by
    intro name descriptor member
    simp only [renamed, List.mem_cons, List.not_mem_nil, or_false] at member
    rcases member with rfl | rfl
    · decide
    · exact (by decide : "primaryKey" ∉ ["name"])
  refine ⟨unstated, ?_, ?_⟩
  · obtain ⟨-, one, -⟩ :=
      compile_primaryKeys .standard (renamed "label") (unstated "label")
    exact one.mpr ⟨rfl, "id", ["label"], rfl, by decide⟩
  · obtain ⟨-, -, -, none⟩ :=
      compile_primaryKeys .standard (renamed "id") (unstated "id")
    exact none rfl

end TerseSchema
