import TerseSchema.Proofs.Column.Merge
import TerseSchema.Proofs.OrderedMap.LastWrite

/-!
# The last object with a key decides it

Objects are merged into a column one after the other.  What the column then
holds under a key, be it a property or an option, is what the last object with
this key dictates, and what it held before if no object has the key.  This is
so for every column at the start, also for one in which a key lives in two
places.

Only the order of the options depends on more than that, because taking a key
out moves the last option into its place.
-/

namespace TerseSchema

/-- A property of a column that is set. -/
inductive Property
  | field (text : String)
  | columnType (spec : TypeSpec)
  | allowNull (allowed : Bool)
  | defaultValue (value : DefaultValue)
  | primaryKey (isKey : Bool)

/-- What a column holds under one key. -/
structure Holding where
  /-- The property of the key, if it is set. -/
  property : Option Property
  /-- The option under the key, if there is one. -/
  option : Option Json

namespace Holding

attribute [ext] Holding

/-- The property is set, and there is no option. -/
def typed (property : Property) : Holding :=
  ⟨some property, none⟩

/-- Neither the property nor an option is left. -/
def cleared : Holding :=
  ⟨none, none⟩

/-- The property is unset, and the value is an option. -/
def passed (value : Json) : Holding :=
  ⟨none, some value⟩

/-- What a truth value in the place of a flag leaves behind. -/
def flag (property : Bool → Property) : Json → Holding
  | .bool value => typed (property value)
  | .null => cleared
  | other => passed other

/-- What a value by itself leaves behind under its key. -/
def dictated (key : String) (value : Json) : Holding :=
  match key with
  | "field" =>
      match value with
      | .string text => typed (.field text)
      | .null => cleared
      | other => passed other
  | "type" =>
      if value.isNull then cleared else typed (.columnType (.ofJson value))
  | "allowNull" => flag .allowNull value
  | "defaultValue" => typed (.defaultValue (.ofJson value))
  | "primaryKey" => flag .primaryKey value
  | _ => passed value

end Holding

namespace Column

/-- The property of a key, if it is set. -/
def setProperty? (column : Column) : String → Option Property
  | "field" => column.field.map .field
  | "type" => column.columnType.map .columnType
  | "allowNull" => column.allowNull.map .allowNull
  | "defaultValue" => column.defaultValue.map .defaultValue
  | "primaryKey" => column.primaryKey.map .primaryKey
  | _ => none

/-- What a column holds under a key. -/
def held (column : Column) (key : String) : Holding :=
  ⟨column.setProperty? key, column.options.get? key⟩

/-- The column after objects were merged in their order. -/
def mergeAll (column : Column) (objects : List (OrderedMap Json)) : Column :=
  objects.foldl merge column

/-- Columns that are equal but for the order of their options. -/
structure EqualUpToOrder (column other : Column) : Prop where
  field : column.field = other.field
  columnType : column.columnType = other.columnType
  allowNull : column.allowNull = other.allowNull
  defaultValue : column.defaultValue = other.defaultValue
  primaryKey : column.primaryKey = other.primaryKey
  options : ∀ key, column.options.get? key = other.options.get? key

/-- Columns that hold the same under every key are equal but for the order of
their options. -/
theorem equalUpToOrder_of_held {column other : Column}
    (same : ∀ key, column.held key = other.held key) :
    column.EqualUpToOrder other where
  field := by
    have property := congrArg Holding.property (same "field")
    exact Option.map_injective (fun _ _ => Property.field.inj) property
  columnType := by
    have property := congrArg Holding.property (same "type")
    exact Option.map_injective (fun _ _ => Property.columnType.inj) property
  allowNull := by
    have property := congrArg Holding.property (same "allowNull")
    exact Option.map_injective (fun _ _ => Property.allowNull.inj) property
  defaultValue := by
    have property := congrArg Holding.property (same "defaultValue")
    exact Option.map_injective (fun _ _ => Property.defaultValue.inj) property
  primaryKey := by
    have property := congrArg Holding.property (same "primaryKey")
    exact Option.map_injective (fun _ _ => Property.primaryKey.inj) property
  options key := congrArg Holding.option (same key)

/-- Columns with the same options in the same order are equal. -/
theorem EqualUpToOrder.eq_of_options {column other : Column}
    (equal : column.EqualUpToOrder other)
    (sameOptions : column.options = other.options) : column = other :=
  Column.ext equal.field equal.columnType equal.allowNull equal.defaultValue
    equal.primaryKey sameOptions

/-! ## One assignment -/

/-- An assignment leaves behind what its value dictates. -/
theorem held_assign_self (column : Column) {key : String} (value : Json)
    (notName : key ≠ "name") :
    (column.assign key value).held key = Holding.dictated key value := by
  -- Both sides choose by the key: the name, the field, the type, the two flags
  -- around the default value, and any key that is no property.
  unfold assign Holding.dictated
  split
  case h_1 => contradiction
  case h_2 =>
      cases value <;>
        simp [held, setProperty?, settle, Json.text?, Json.isNull,
          Holding.typed, Holding.cleared, Holding.passed]
  case h_3 =>
      cases value <;>
        simp [held, setProperty?, settle, Json.isNull, Holding.typed,
          Holding.cleared]
  case h_4 | h_6 =>
      cases value <;>
        simp [held, setProperty?, settle, Json.bool?, Json.isNull,
          Holding.flag, Holding.typed, Holding.cleared, Holding.passed]
  case h_5 => simp [held, setProperty?, settle, Holding.typed]
  case h_7 => simp [held, setProperty?, settle, Holding.passed]

/-- An assignment leaves other keys alone. -/
theorem held_assign_of_ne (column : Column) {key other : String}
    (value : Json) (differs : key ≠ other) :
    (column.assign key value).held other = column.held other := by
  ext1
  case property =>
    unfold held setProperty?
    dsimp only
    split
    · rw [field_assign, if_neg differs]
    · rw [columnType_assign, if_neg differs]
    · rw [allowNull_assign, if_neg differs]
    · rw [defaultValue_assign, if_neg differs]
    · rw [primaryKey_assign, if_neg differs]
    · rfl
  case option =>
    have unchanged : other ≠ key := differs.symm
    unfold held
    dsimp only
    rw [options_assign, settle]
    split
    · rfl
    · split <;> simp [unchanged]

/-- A value is left as an option unless a property takes it. -/
theorem option_dictated {key : String} (value : Json) (notName : key ≠ "name") :
    (Holding.dictated key value).option =
      if isTaken key value then none else some value := by
  unfold Holding.dictated isTaken
  split
  case h_4 => rfl
  case h_6 => simp_all [Holding.passed]
  all_goals cases value <;> rfl

/-- Assigning a value changes nothing if the column holds what the value
dictates. -/
theorem assign_of_held {column : Column} {key : String} {value : Json}
    (notName : key ≠ "name")
    (same : column.held key = Holding.dictated key value) :
    column.assign key value = column := by
  have everyKey (other : String) :
      (column.assign key value).held other = column.held other := by
    by_cases here : key = other
    · rw [← here, held_assign_self column value notName, same]
    · exact held_assign_of_ne column value here
  -- The options are the same up to their order, and the order is kept too.
  have options : (column.assign key value).options = column.options := by
    have option : column.options.get? key =
        if isTaken key value then none else some value :=
      (congrArg Holding.option same).trans (option_dictated value notName)
    rw [options_assign, if_neg notName, settle]
    split
    · rename_i taken
      rw [if_pos taken] at option
      exact OrderedMap.erase_of_absent option
    · rename_i kept
      rw [if_neg kept] at option
      exact OrderedMap.insert_of_get?_eq_some option
  exact (equalUpToOrder_of_held everyKey).eq_of_options options

/-! ## Whole objects -/

/-- The logical name is left out of a merge. -/
theorem held_merge_name (column : Column) (object : OrderedMap Json) :
    (column.merge object).held "name" = column.held "name" := by
  have everyList (entries : List (String × Json)) (column : Column) :
      (entries.foldl (fun merged entry => merged.assign entry.1 entry.2)
        column).held "name" = column.held "name" := by
    induction entries generalizing column with
    | nil => rfl
    | cons entry rest inductionHypothesis =>
        rw [List.foldl_cons, inductionHypothesis]
        by_cases isName : entry.1 = "name"
        · rw [isName]
          rfl
        · exact held_assign_of_ne column entry.2 isName
  exact everyList object.entries column

/-- Under any other key a column holds after a merge what the object dictates,
or what it held before if the object does not have the key. -/
theorem held_merge (column : Column) (object : OrderedMap Json) {key : String}
    (notName : key ≠ "name") :
    (column.merge object).held key =
      (object.get? key).elim (column.held key) (Holding.dictated key) := by
  apply part_merge fun column => column.held key
  intro column other value
  split
  · rename_i same
    rw [same, held_assign_self column value notName]
  · rename_i differs
    exact held_assign_of_ne column value differs

/-- Merging an object changes nothing if the column holds what the object
dictates. -/
theorem merge_of_held {column : Column} {object : OrderedMap Json}
    (same : ∀ key value, object.get? key = some value → key ≠ "name" →
      column.held key = Holding.dictated key value) :
    column.merge object = column := by
  have unchanged : ∀ entry ∈ object.entries,
      column.assign entry.1 entry.2 = column := by
    intro entry member
    have given := (OrderedMap.get?_eq_some_iff object _ _).mpr member
    by_cases isName : entry.1 = "name"
    · rw [isName]
      rfl
    · exact assign_of_held isName (same _ _ given isName)
  refine List.foldlRecOn (motive := fun merged => merged = column)
    object.entries _ rfl ?_
  rintro _ rfl entry member
  exact unchanged entry member

/-- Merging an object a second time changes nothing, not even the order of
options. -/
theorem merge_merge_self (column : Column) (object : OrderedMap Json) :
    (column.merge object).merge object = column.merge object := by
  apply merge_of_held
  intro key value given notName
  rw [held_merge column object notName, given]
  rfl

/-- Two objects may be merged as one in which the second one overrides the
first one. -/
theorem merge_merge (column : Column) (first second : OrderedMap Json) :
    ((column.merge first).merge second).EqualUpToOrder
      (column.merge (first.insertAll second.entries)) := by
  apply equalUpToOrder_of_held
  intro key
  by_cases isName : key = "name"
  · rw [isName, held_merge_name, held_merge_name, held_merge_name]
  · rw [held_merge _ _ isName, held_merge _ _ isName, held_merge _ _ isName,
      OrderedMap.get?_insertAll_entries]
    cases second.get? key <;> rfl

/-- Objects without a common key may be merged in either order. -/
theorem merge_comm_of_disjoint (column : Column)
    {first second : OrderedMap Json}
    (disjoint : ∀ key, first.get? key = none ∨ second.get? key = none) :
    ((column.merge first).merge second).EqualUpToOrder
      ((column.merge second).merge first) := by
  apply equalUpToOrder_of_held
  intro key
  by_cases isName : key = "name"
  · rw [isName, held_merge_name, held_merge_name, held_merge_name,
      held_merge_name]
  · rw [held_merge _ _ isName, held_merge _ _ isName, held_merge _ _ isName,
      held_merge _ _ isName]
    rcases disjoint key with absent | absent <;> rw [absent] <;> rfl

/-! ## Lists of objects -/

theorem held_mergeAll_name (column : Column)
    (objects : List (OrderedMap Json)) :
    (column.mergeAll objects).held "name" = column.held "name" := by
  induction objects generalizing column with
  | nil => rfl
  | cons object rest inductionHypothesis =>
      exact (inductionHypothesis _).trans (held_merge_name column object)

/-- Objects without a key leave what a column holds under it alone. -/
theorem held_mergeAll_of_absent (column : Column)
    {objects : List (OrderedMap Json)} {key : String}
    (absent : ∀ object ∈ objects, object.get? key = none) :
    (column.mergeAll objects).held key = column.held key := by
  by_cases isName : key = "name"
  · rw [isName, held_mergeAll_name]
  induction objects generalizing column with
  | nil => rfl
  | cons object rest inductionHypothesis =>
      have others := inductionHypothesis (column.merge object)
        fun later member => absent later (List.mem_cons_of_mem _ member)
      rw [held_merge column object isName,
        absent object List.mem_cons_self] at others
      exact others

/-- The last object with a key dictates what a column holds under it. -/
theorem held_mergeAll_of_last (column : Column)
    (front : List (OrderedMap Json)) {last : OrderedMap Json}
    {back : List (OrderedMap Json)} {key : String} {value : Json}
    (notName : key ≠ "name") (given : last.get? key = some value)
    (absent : ∀ later ∈ back, later.get? key = none) :
    (column.mergeAll (front ++ last :: back)).held key =
      Holding.dictated key value := by
  have parts : column.mergeAll (front ++ last :: back) =
      ((column.mergeAll front).merge last).mergeAll back :=
    List.foldl_append
  rw [parts, held_mergeAll_of_absent _ absent, held_merge _ _ notName, given]
  rfl

/-- Under every key but the logical name, a column holds what the last object
with the key dictates, which is what a column made of that object alone holds,
or what it held before if no object has the key.  The logical name is left out
of every merge.

Hence two objects merge like the one in which the second overrides the first,
objects without a common key may be merged in either order, both but for the
order of options, and merging an object again changes nothing at all. -/
theorem mergeAll_lastWriteWins (column : Column)
    (objects : List (OrderedMap Json)) :
    (∀ key, key ≠ "name" →
      ((∀ object ∈ objects, object.get? key = none) →
        (column.mergeAll objects).held key = column.held key) ∧
      ∀ front last back value, objects = front ++ last :: back →
        last.get? key = some value →
        (∀ later ∈ back, later.get? key = none) →
        (column.mergeAll objects).held key = Holding.dictated key value ∧
          (ofObject last).held key = Holding.dictated key value) ∧
      (column.mergeAll objects).held "name" = column.held "name" ∧
      (∀ first second,
        ((column.merge first).merge second).EqualUpToOrder
          (column.merge (first.insertAll second.entries))) ∧
      (∀ object,
        (column.merge object).merge object = column.merge object) ∧
      ∀ first second,
        (∀ key, first.get? key = none ∨ second.get? key = none) →
        ((column.merge first).merge second).EqualUpToOrder
          ((column.merge second).merge first) := by
  refine ⟨fun key notName => ⟨held_mergeAll_of_absent column, ?_⟩,
    held_mergeAll_name column objects, merge_merge column,
    merge_merge_self column,
    fun first second disjoint => merge_comm_of_disjoint column disjoint⟩
  rintro front last back value rfl given absent
  refine ⟨held_mergeAll_of_last column front notName given absent, ?_⟩
  rw [ofObject, held_merge _ _ notName, given]
  rfl

/-- A text in the place of the permission of null stays an option under objects
that do not mention it, and a truth value in the place of the storage field
replaces the text of an earlier object. -/
theorem mergeAll_of_misshapen_members :
    let column : Column := { Column.empty with
      allowNull := some true
      options := .ofList [("note", .bool true), ("type", .null)] }
    let first : OrderedMap Json :=
      .ofList [("allowNull", .string "yes"), ("field", .string "a")]
    let second : OrderedMap Json := .ofList [("field", .bool false)]
    let third : OrderedMap Json := .ofList [("primaryKey", .bool true)]
    let merged := column.mergeAll [first, second, third]
    merged.held "allowNull" = .passed (.string "yes") ∧
      merged.held "field" = .passed (.bool false) ∧
      merged.held "note" = ⟨none, some (.bool true)⟩ ∧
      (∀ key, first.get? key = none ∨ third.get? key = none) ∧
      ((column.merge first).merge third).EqualUpToOrder
        ((column.merge third).merge first) := by
  intro column first second third merged
  obtain ⟨perKey, -, -, -, commute⟩ :=
    mergeAll_lastWriteWins column [first, second, third]
  have disjoint : ∀ key, first.get? key = none ∨ third.get? key = none := by
    intro key
    by_cases isKey : key = "primaryKey"
    · exact Or.inl (isKey ▸ rfl)
    · right
      simp [third, OrderedMap.ofList, OrderedMap.insertAll, isKey]
  refine ⟨?_, ?_, ?_, disjoint, commute first third disjoint⟩
  · exact ((perKey "allowNull" (by decide)).2 [] first [second, third] _
      rfl rfl (by simp [second, third, OrderedMap.ofList, OrderedMap.insertAll])).1
  · exact ((perKey "field" (by decide)).2 [first] second [third] _
      rfl rfl (by simp [third, OrderedMap.ofList, OrderedMap.insertAll])).1
  · exact (perKey "note" (by decide)).1
      (by simp [first, second, third, OrderedMap.ofList, OrderedMap.insertAll])

end Column
end TerseSchema
