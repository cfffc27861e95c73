import TerseSchema.Column.Record
import TerseSchema.Proofs.OrderedMap.Insertion

/-!
# Merging objects into columns

One assignment decides the property of its key and whether the value is kept
among the options, and touches nothing else.  The keys of an object are
distinct, so after a merge each property is the one that the object states, or
the old one if the object does not mention it.

The options of a column that had none are the members of the object that no
property takes, in their order.
-/

namespace TerseSchema
namespace Column

attribute [ext] Column

/-! ## One assignment -/

/-- Whether a value leaves no option behind because a property takes it. -/
def isTaken (key : String) (value : Json) : Bool :=
  match key with
  | "field" => value.isNull || value.text?.isSome
  | "type" => true
  | "allowNull" => value.isNull || value.bool?.isSome
  | "defaultValue" => true
  | "primaryKey" => value.isNull || value.bool?.isSome
  | _ => false

/-- Whether a member of an object is kept among the options. -/
def isOption (key : String) (value : Json) : Bool :=
  key != "name" && !isTaken key value

/-- The type that a value states. -/
def statedType (value : Json) : Option TypeSpec :=
  if value.isNull then none else some (.ofJson value)

variable (column : Column) (key : String) (value : Json)

theorem field_assign :
    (column.assign key value).field =
      if key = "field" then value.text? else column.field := by
  unfold assign
  split <;> simp_all

theorem columnType_assign :
    (column.assign key value).columnType =
      if key = "type" then statedType value else column.columnType := by
  unfold assign statedType
  split <;> simp_all

theorem allowNull_assign :
    (column.assign key value).allowNull =
      if key = "allowNull" then value.bool? else column.allowNull := by
  unfold assign
  split <;> simp_all

theorem defaultValue_assign :
    (column.assign key value).defaultValue =
      if key = "defaultValue" then some (.ofJson value)
      else column.defaultValue := by
  unfold assign
  split <;> simp_all

theorem primaryKey_assign :
    (column.assign key value).primaryKey =
      if key = "primaryKey" then value.bool? else column.primaryKey := by
  unfold assign
  split <;> simp_all

/-- The logical name is left out, and any other value is settled. -/
theorem options_assign :
    (column.assign key value).options =
      if key = "name" then column.options
      else settle column.options key value (isTaken key value) := by
  unfold assign isTaken
  split <;> simp_all

/-! ## Whole objects -/

/-- A part of a column that only the value of one key decides is, after a
merge, the one that the object states under that key. -/
theorem part_merge {γ : Type} (part : Column → γ) (decisive : String)
    (stated : Json → γ)
    (step : ∀ column key value, part (column.assign key value) =
      if key = decisive then stated value else part column)
    (column : Column) (object : OrderedMap Json) :
    part (column.merge object) =
      (object.get? decisive).elim (part column) stated := by
  have everyList (entries : List (String × Json))
      (distinct : (OrderedMap.keysOf entries).Nodup) (column : Column) :
      part (entries.foldl
          (fun merged entry => merged.assign entry.1 entry.2) column) =
        (entries.lookup decisive).elim (part column) stated := by
    induction entries generalizing column with
    | nil => rfl
    | cons entry rest inductionHypothesis =>
        obtain ⟨fresh, restDistinct⟩ := List.nodup_cons.mp distinct
        rw [List.foldl_cons, inductionHypothesis restDistinct, step,
          List.lookup_cons]
        by_cases here : entry.1 = decisive
        · have absent : rest.lookup decisive = none :=
            (OrderedMap.lookup_eq_none_iff rest decisive).mpr (here ▸ fresh)
          simp [here, absent]
        · have differs : (decisive == entry.1) = false :=
            beq_eq_false_iff_ne.mpr fun equal => here equal.symm
          simp [here, differs]
  exact everyList object.entries object.keysDistinct column

variable (object : OrderedMap Json)

theorem field_merge :
    (column.merge object).field =
      (object.get? "field").elim column.field Json.text? :=
  part_merge field "field" Json.text? field_assign column object

theorem columnType_merge :
    (column.merge object).columnType =
      (object.get? "type").elim column.columnType statedType :=
  part_merge columnType "type" statedType columnType_assign column object

theorem allowNull_merge :
    (column.merge object).allowNull =
      (object.get? "allowNull").elim column.allowNull Json.bool? :=
  part_merge allowNull "allowNull" Json.bool? allowNull_assign column object

theorem defaultValue_merge :
    (column.merge object).defaultValue =
      (object.get? "defaultValue").elim column.defaultValue
        fun value => some (.ofJson value) :=
  part_merge defaultValue "defaultValue" (fun value => some (.ofJson value))
    defaultValue_assign column object

theorem primaryKey_merge :
    (column.merge object).primaryKey =
      (object.get? "primaryKey").elim column.primaryKey Json.bool? :=
  part_merge primaryKey "primaryKey" Json.bool? primaryKey_assign column
    object

/-- Assigning a key that is no option yet adds the value at the end of the
options if it is kept at all. -/
theorem entries_options_assign {column : Column} {key : String}
    (value : Json) (absent : column.options.get? key = none) :
    (column.assign key value).options.entries =
      column.options.entries ++
        if isOption key value then [(key, value)] else [] := by
  rw [options_assign]
  by_cases isName : key = "name"
  · simp [isOption, isName]
  · cases taken : isTaken key value with
    | true =>
        simp [settle, isOption, isName, taken,
          OrderedMap.erase_of_absent absent]
    | false =>
        have fresh : key ∉ column.options.keys :=
          (OrderedMap.not_mem_keys_iff _ _).mpr absent
        simp [settle, isOption, isName, taken,
          OrderedMap.entries_insert_of_absent value fresh]

/-- The members of an object that a column keeps, in order. -/
def keptMembers (object : OrderedMap Json) : List (String × Json) :=
  object.entries.filter fun entry => isOption entry.1 entry.2

/-- A column without options keeps the members that no property takes. -/
theorem entries_options_merge {column : Column} (object : OrderedMap Json)
    (bare : column.options = .empty) :
    (column.merge object).options.entries = keptMembers object := by
  have everyList (entries : List (String × Json)) (column : Column)
      (distinct : (column.options.keys ++ OrderedMap.keysOf entries).Nodup) :
      (entries.foldl (fun merged entry => merged.assign entry.1 entry.2)
          column).options.entries =
        column.options.entries ++
          entries.filter fun entry => isOption entry.1 entry.2 := by
    induction entries generalizing column with
    | nil => simp
    | cons entry rest inductionHypothesis =>
        have absent : column.options.get? entry.1 = none := by
          apply (OrderedMap.not_mem_keys_iff _ _).mp
          intro present
          exact (List.nodup_append.mp distinct).2.2 _ present _
            List.mem_cons_self rfl
        have added := entries_options_assign entry.2 absent
        -- The kept part of the object only grows by the key just read.
        have remaining : ((column.assign entry.1 entry.2).options.keys ++
            OrderedMap.keysOf rest).Nodup := by
          rw [OrderedMap.keys, added, OrderedMap.keysOf_append,
            List.append_assoc]
          refine distinct.sublist ((List.Sublist.refl _).append ?_)
          split
          · exact List.Sublist.refl _
          · exact List.sublist_cons_self _ _
        rw [List.foldl_cons, inductionHypothesis _ remaining, added,
          List.append_assoc, List.filter_cons]
        split <;> rfl
  have distinct :
      (column.options.keys ++ OrderedMap.keysOf object.entries).Nodup := by
    rw [bare, OrderedMap.keys_empty, List.nil_append]
    exact object.keysDistinct
  have start := everyList object.entries column distinct
  simpa [merge, keptMembers, bare, OrderedMap.empty] using start

end Column
end TerseSchema
