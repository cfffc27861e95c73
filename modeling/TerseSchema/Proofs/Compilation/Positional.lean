import TerseSchema.Compilation.Basic
import TerseSchema.Proofs.Column.ReadBack
import Std.Data.String.ToNat

/-!
# Reading slots by place

What a descriptor compiles to can be said without a cursor.  The third slot is
of one of three kinds, the kind tells at which places the default value and the
options stand, and each property is the one that the options state, or else the
one that the slots give.

The main statement is `ofDescriptor_eq_positional`: compiling with the cursor
gives exactly the name and the column of this reading.
-/

namespace TerseSchema
namespace Positional

/-! ## The reading -/

/-- What a third slot is for. -/
inductive Kind
  | booleanDefault (value : Bool)
  | flag (allowed : Bool)
  | literal

/-- The truth value that is written as such or in words. -/
def truth? : Json → Option Bool
  | .bool value => some value
  | .string text =>
      if text = "true" then some true
      else if text = "false" then some false
      else none
  | _ => none

/-- The truth value or the sign that permits or forbids null. -/
def permission? : Json → Option Bool
  | .string text =>
      if text = "$t" then some true
      else if text = "$f" then some false
      else truth? (.string text)
  | other => truth? other

/-- Whether a second slot is a text with `Boolean` before its first equals
sign. -/
def isBooleanKeyword : Json → Bool
  | .string text =>
      String.ofList (text.toList.takeWhile (· != '=')) == "Boolean"
  | _ => false

/-- The kind of a third slot after a given second one. -/
def kind (second third : Json) : Kind :=
  if isBooleanKeyword second ∧ (truth? third).isSome then
    .booleanDefault (truth? third = some true)
  else
    match permission? third with
    | some allowed => .flag allowed
    | none => .literal

variable (slots : List Json)

/-- The slot of a number, counted from one. -/
def slot? (number : Nat) : Option Json :=
  slots[number - 1]?

/-- The kind of the third slot, if there is one. -/
def kind? : Option Kind :=
  match slot? slots 2, slot? slots 3 with
  | some second, some third => some (kind second third)
  | _, _ => none

/-- The permission of null in the third slot. -/
def flag? : Option Bool :=
  match kind? slots with
  | some (.flag allowed) => some allowed
  | _ => none

/-- The default value, which is never an object. -/
def default? : Option Json :=
  match kind? slots with
  | some (.booleanDefault value) => some (.bool value)
  | some (.flag _) => (slot? slots 4).filter fun value => !value.isObject
  | some .literal => (slot? slots 3).filter fun value => !value.isObject
  | none => none

/-- The slot of the options. -/
def optionsSlot? : Option Json :=
  match kind? slots with
  | some (.booleanDefault _) => slot? slots 4
  | some (.flag _) =>
      if (slot? slots 4).any Json.isObject then slot? slots 4
      else slot? slots 5
  | some .literal =>
      if (slot? slots 3).any Json.isObject then slot? slots 3
      else slot? slots 4
  | none => none

/-- Different places have different decimal texts. -/
theorem nodup_numberedKeys (items : List Json) :
    ((items.mapIdx fun place item => (place.repr, item)).map
      Prod.fst).Nodup := by
  rw [List.mapIdx_eq_zipIdx_map, List.map_map]
  have places : (items.zipIdx.map Prod.snd).Nodup := by
    rw [List.zipIdx_map_snd]
    exact List.nodup_range'
  rw [List.Nodup, List.pairwise_map] at places ⊢
  exact places.imp fun differs same => differs (Nat.repr_injective same)

/-- The items of an array under the decimal texts of their places. -/
def numbered (items : List Json) : OrderedMap Json where
  entries := items.mapIdx fun place item => (place.repr, item)
  keysDistinct := nodup_numberedKeys items

/-- The options.  Only an object or an array gives any. -/
def options : OrderedMap Json :=
  match optionsSlot? slots with
  | some (.object members) => .ofList members
  | some (.array items) => numbered items
  | _ => .empty

/-- The name in the first slot. -/
def slotName : String :=
  match slot? slots 1 with
  | some (.string text) => text
  | some (.array (first :: _)) => first.keyText
  | _ => ""

/-- The storage field that the first slot gives. -/
def slotField : Option String :=
  match slot? slots 1 with
  | some (.string text) => StorageName.storageField text
  | some (.array (_ :: second :: _)) =>
      if second.isTruthy then some second.keyText else none
  | _ => none

/-- The type that the second slot gives. -/
def slotType : Option TypeSpec :=
  match slot? slots 2 with
  | some (.string text) => some (.ofKeyword (.parse text))
  | some other => if other.isTruthy then some (.direct other) else none
  | none => none

/-- A plain identifier type comes with a fresh identifier for each row. -/
def typeDefault : Option DefaultValue :=
  match slotType slots with
  | some (.plain .uuid) => some .freshUuid
  | _ => none

/-- The name of the column: the one that the options give, unless it is null,
or else the one in the first slot. -/
def name : String :=
  match (options slots).get? "name" with
  | some value => if value.isNull then slotName slots else value.keyText
  | none => slotName slots

variable (compileOptions : CompileOptions) (index : Nat)

/-- Whether the column becomes the primary key on its own. -/
def isAutomaticKey : Bool :=
  compileOptions.setPrimaryKey && index == 0

/-- The column that the slots give without the options. -/
def base : Column where
  field := slotField slots
  columnType := slotType slots
  allowNull := (flag? slots).or
    (if isAutomaticKey compileOptions index || compileOptions.allowNull
      then some true else none)
  defaultValue := ((default? slots).map DefaultValue.literal).or
    (typeDefault slots)
  primaryKey :=
    if isAutomaticKey compileOptions index then some true else none
  options := .empty

/-- A column with the properties that an object states in place of its own,
and the members that no property takes as options. -/
def overlay (column : Column) (object : OrderedMap Json) : Column where
  field := (object.get? "field").elim column.field Json.text?
  columnType := (object.get? "type").elim column.columnType fun value =>
    if value.isNull then none else some (.ofJson value)
  allowNull := (object.get? "allowNull").elim column.allowNull Json.bool?
  defaultValue := (object.get? "defaultValue").elim column.defaultValue
    fun value => some (.ofJson value)
  primaryKey := (object.get? "primaryKey").elim column.primaryKey Json.bool?
  options := .ofList (object.entries.filter fun entry =>
    Column.isOption entry.1 entry.2)

/-- The column that the slots give. -/
def column : Column :=
  overlay (base slots compileOptions index) (options slots)

/-! ## The cursor agrees -/

theorem truth?_eq_statedBool? (value : Json) :
    truth? value = NullDefaultSlot.statedBool? value := by
  fun_cases NullDefaultSlot.statedBool? value with
  | case1 | case2 | case3 => rfl
  | case4 notBool notTrue notFalse =>
      unfold truth?
      split <;> simp_all

theorem permission?_eq_statedFlag? (value : Json) :
    permission? value = NullDefaultSlot.statedFlag? value := by
  fun_cases NullDefaultSlot.statedFlag? value with
  | case1 | case2 => rfl
  | case3 notPermitted notForbidden =>
      unfold permission?
      split <;> simp_all [truth?_eq_statedBool?]

theorem namesBoolean_classify (second : Json) :
    (TypeSlot.classify second).namesBoolean = isBooleanKeyword second := by
  cases second with
  | string text => rfl
  | null | bool _ | number _ | array _ | object _ =>
      unfold TypeSlot.classify
      dsimp only
      split <;> rfl

/-- The third slot is classified by its kind. -/
theorem classify_eq_of_kind (second third : Json) :
    NullDefaultSlot.classify (TypeSlot.classify second) third =
      match kind second third with
      | .booleanDefault value => .booleanDefault value
      | .flag allowed => .nullFlag allowed
      | .literal => .defaultLiteral third := by
  unfold NullDefaultSlot.classify kind
  rw [namesBoolean_classify, ← truth?_eq_statedBool?,
    ← permission?_eq_statedFlag?]
  cases isBooleanKeyword second <;> cases truth? third with
    | none => cases permission? third <;> rfl
    | some value => cases value <;> cases permission? third <;> rfl

theorem nameAndField_classify (slots : List Json) :
    CompiledColumn.nameAndField (NameSlot.classify slots.head?) =
      (slotName slots, slotField slots) := by
  rcases slots with _ | ⟨first, rest⟩
  · rfl
  · rcases first with _ | _ | _ | text | items | _
    case array =>
      rcases items with _ | ⟨name, _ | ⟨second, others⟩⟩
      · rfl
      · rfl
      · cases given : second.isTruthy <;>
          simp [NameSlot.classify, CompiledColumn.nameAndField, slotName,
            slotField, slot?, Option.filter, given]
    all_goals rfl

/-- The second slot sets the type, and the default value of a plain identifier
type. -/
theorem withType_classify {column : Column} (first second : Json)
    (rest : List Json) (defaultUnset : column.defaultValue = none)
    (typeUnset : column.columnType = none) :
    CompiledColumn.withType column (TypeSlot.classify second) =
      { column with
        columnType := slotType (first :: second :: rest)
        defaultValue := typeDefault (first :: second :: rest) } := by
  cases second with
  | string text =>
      cases spec : TypeSpec.ofKeyword (.parse text) with
      | plain base =>
          cases base <;>
            simp [TypeSlot.classify, CompiledColumn.withType, typeDefault,
              slotType, slot?, spec, defaultUnset]
      | sized _ _ | unresolved _ _ | direct _ =>
          simp [TypeSlot.classify, CompiledColumn.withType, typeDefault,
            slotType, slot?, spec, defaultUnset]
  | null | bool value | number value | array _ | object _ =>
      unfold TypeSlot.classify
      dsimp only
      split
      · rename_i truthy
        simp [CompiledColumn.withType, typeDefault, slotType, slot?, truthy,
          defaultUnset]
      · rename_i falsy
        simp only [typeDefault, slotType, slot?, Nat.reduceSub,
          List.getElem?_cons_succ, List.getElem?_cons_zero, if_neg falsy]
        exact Column.ext rfl typeUnset rfl defaultUnset rfl rfl

theorem head?_eq_pop (slots : List Json) :
    (Cursor.pop ⟨slots⟩).1 = slots[0]? := by
  cases slots <;> rfl

/-- From the third slot on the cursor finds the permission of null, the default
value and the options at the places that the kind tells. -/
theorem readDefault_classify (column : Column) (first second third : Json)
    (rest : List Json) :
    let slots := first :: second :: third :: rest
    let read := CompiledColumn.readDefault (TypeSlot.classify second) column
      ⟨third :: rest⟩
    read.1 = { column with
        allowNull := (flag? slots).or column.allowNull
        defaultValue := ((default? slots).map DefaultValue.literal).or
          column.defaultValue } ∧
      read.2.pop.1 = optionsSlot? slots := by
  intro slots read
  cases known : kind second third with
  | booleanDefault value =>
      simp [slots, read, CompiledColumn.readDefault, classify_eq_of_kind, known,
        CompiledColumn.withDefault, DefaultSlot.classify, Json.isObject, flag?,
        default?, optionsSlot?, kind?, slot?, head?_eq_pop]
  | flag allowed =>
      cases rest with
      | nil =>
          simp [slots, read, CompiledColumn.readDefault, classify_eq_of_kind,
            known, CompiledColumn.withDefault, flag?, default?, optionsSlot?,
            kind?, slot?]
      | cons fourth others =>
          cases isObject : fourth.isObject <;>
            simp [slots, read, CompiledColumn.readDefault, classify_eq_of_kind,
              known, CompiledColumn.withDefault, DefaultSlot.classify, isObject,
              Option.filter, flag?, default?, optionsSlot?, kind?, slot?,
              head?_eq_pop]
  | literal =>
      cases isObject : third.isObject <;>
        simp [slots, read, CompiledColumn.readDefault, classify_eq_of_kind,
          known, CompiledColumn.withDefault, DefaultSlot.classify, isObject,
          Option.filter, flag?, default?, optionsSlot?, kind?, slot?,
          head?_eq_pop]

theorem optionsOf_eq (slots : List Json) :
    CompiledColumn.optionsOf (optionsSlot? slots) = options slots := by
  unfold CompiledColumn.optionsOf options
  cases optionsSlot? slots with
  | none => rfl
  | some value =>
      cases value with
      | array items =>
          exact OrderedMap.ext
            (OrderedMap.entries_ofList (nodup_numberedKeys items))
      | _ => rfl

/-- Merging into a column without options overlays it. -/
theorem merge_eq_overlay {column : Column} (object : OrderedMap Json)
    (bare : column.options = .empty) :
    column.merge object = overlay column object := by
  ext1
  · exact Column.field_merge column object
  · exact Column.columnType_merge column object
  · exact Column.allowNull_merge column object
  · exact Column.defaultValue_merge column object
  · exact Column.primaryKey_merge column object
  · have distinct : (OrderedMap.keysOf (Column.keptMembers object)).Nodup :=
      object.keysDistinct.sublist
        (List.Sublist.map Prod.fst List.filter_sublist)
    apply OrderedMap.ext
    rw [Column.entries_options_merge object bare, overlay]
    exact (OrderedMap.entries_ofList distinct).symm

/-- The cursor reads the slots before the options as the places tell, and then
merges the options. -/
theorem ofDescriptor_eq_merge (compileOptions : CompileOptions) (index : Nat)
    (descriptor : Descriptor) :
    (CompiledColumn.ofDescriptor compileOptions index descriptor).name =
        CompiledColumn.rename (slotName descriptor.values)
          (options descriptor.values) ∧
      (CompiledColumn.ofDescriptor compileOptions index descriptor).column =
        (base descriptor.values compileOptions index).merge
          (options descriptor.values) := by
  unfold CompiledColumn.ofDescriptor
  generalize descriptor.values = slots
  have named := nameAndField_classify slots
  rcases slots with _ | ⟨first, _ | ⟨second, _ | ⟨third, rest⟩⟩⟩
  · exact ⟨rfl, rfl⟩
  · simp only [List.head?_cons] at named
    simp only [Cursor.pop_cons, Cursor.pop_nil, named]
    exact ⟨rfl, rfl⟩
  · simp only [List.head?_cons] at named
    simp only [Cursor.pop_cons, named, Option.map_some, Option.getD_some]
    rw [withType_classify first second [] rfl rfl]
    exact ⟨rfl, rfl⟩
  · simp only [List.head?_cons] at named
    simp only [Cursor.pop_cons, named, Option.map_some, Option.getD_some]
    rw [withType_classify first second (third :: rest) rfl rfl]
    obtain ⟨column, slot⟩ := readDefault_classify
      { CompiledColumn.initial compileOptions index with
        field := slotField (first :: second :: third :: rest)
        columnType := slotType (first :: second :: third :: rest)
        defaultValue := typeDefault (first :: second :: third :: rest) }
      first second third rest
    rw [column, slot, optionsOf_eq]
    exact ⟨rfl, rfl⟩

/-! ## Numbered options -/

theorem isDigit_of_mem_keys_numbered {items : List Json} {key : String}
    (present : key ∈ (numbered items).keys) :
    key.toList.all Char.isDigit = true := by
  simp only [OrderedMap.keys, OrderedMap.keysOf, numbered, List.mem_map,
    List.mem_mapIdx] at present
  obtain ⟨_, ⟨place, _, rfl⟩, rfl⟩ := present
  rw [List.all_eq_true, Nat.toList_repr]
  intro character member
  exact Nat.isDigit_of_mem_toDigits (by decide) (by decide) member

/-- Items are under no key but digits. -/
theorem get?_numbered (items : List Json) {key : String}
    (other : key.toList.all Char.isDigit = false) :
    (numbered items).get? key = none := by
  rw [← OrderedMap.not_mem_keys_iff]
  intro present
  rw [isDigit_of_mem_keys_numbered present] at other
  contradiction

/-- No property takes a numbered item. -/
theorem isOption_of_isDigit {key : String} (value : Json)
    (digits : key.toList.all Char.isDigit = true) :
    Column.isOption key value = true := by
  have notName : key ≠ "name" := by
    rintro rfl
    exact absurd digits (by decide)
  unfold Column.isOption Column.isTaken
  split
  case h_6 => simp [notName]
  all_goals exact absurd digits (by decide)

theorem overlay_numbered {column : Column} (items : List Json) :
    overlay column (numbered items) =
      { column with options := numbered items } := by
  have kept : ((numbered items).entries.filter fun entry =>
      Column.isOption entry.1 entry.2) = (numbered items).entries :=
    List.filter_eq_self.mpr fun entry member =>
      isOption_of_isDigit entry.2
        (isDigit_of_mem_keys_numbered (List.mem_map_of_mem member))
  unfold overlay
  rw [get?_numbered items (by decide), get?_numbered items (by decide),
    get?_numbered items (by decide), get?_numbered items (by decide),
    get?_numbered items (by decide), kept, OrderedMap.ofList_entries]
  rfl

end Positional

/-- Compiling a descriptor with the cursor gives the name and the column of the
reading by place, whatever the slots are.  Items of an array in the place of
the options become numbered options and touch no property. -/
theorem ofDescriptor_eq_positional (options : CompileOptions) (index : Nat)
    (descriptor : Descriptor) :
    (CompiledColumn.ofDescriptor options index descriptor).name =
        Positional.name descriptor.values ∧
      (CompiledColumn.ofDescriptor options index descriptor).column =
        Positional.column descriptor.values options index ∧
      ∀ items, Positional.optionsSlot? descriptor.values = some (.array items) →
        (CompiledColumn.ofDescriptor options index descriptor).name =
            Positional.slotName descriptor.values ∧
          (CompiledColumn.ofDescriptor options index descriptor).column =
            { Positional.base descriptor.values options index with
              options := Positional.numbered items } := by
  obtain ⟨named, merged⟩ :=
    Positional.ofDescriptor_eq_merge options index descriptor
  rw [Positional.merge_eq_overlay _ rfl] at merged
  refine ⟨named, merged, fun items slot => ?_⟩
  have numbered : Positional.options descriptor.values =
      Positional.numbered items := by
    rw [Positional.options, slot]
  constructor
  · rw [named, numbered, CompiledColumn.rename,
      Positional.get?_numbered items (by decide)]
  · rw [merged, numbered, Positional.overlay_numbered]

end TerseSchema
