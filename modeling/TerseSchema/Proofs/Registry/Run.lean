import TerseSchema.Registry.Basic
import TerseSchema.Proofs.OrderedMap.Insertion
import Mathlib.Data.List.Nodup

/-!
# Runs of a registry

A run is a sequence of calls.  A call that fails leaves the registry as it was,
and one that succeeds takes one of three steps: it stores a configuration,
opens a configured database, or adds a model under names that are all free.
Whatever holds of the new registry and is kept by these steps holds after every
run.
-/

namespace TerseSchema

/-- The model that the configuration of a table describes. -/
def Model.ofConfig (database : String) (config : TableConfig)
    (attributes : OrderedMap Json) : Model :=
  ⟨database, config.table, config.schema, attributes⟩

/-- A table name is shorter than its name together with a database. -/
theorem Model.table_ne_qualify (database table : String) :
    table ≠ Model.qualify database table := by
  intro equal
  have lengths := congrArg String.length equal
  simp only [Model.qualify, String.length_append] at lengths
  have dot : ".".length = 1 := rfl
  omega

/-- A call of an operation that may change a registry. -/
inductive Call
  | configure (config : DatabaseConfig)
  | openDatabase (name : String)
  | loadModule (database : String) (tableModule : TableModule)
  | define (database : String) (config : TableConfig)
      (attributes : OrderedMap Json)

namespace Registry

/-! ## Adding a model -/

/-- The names under which a model is looked up. -/
def lookupNames (options : RegistryOptions) (model : Model) : List String :=
  if options.keepBareNames then [model.table, model.qualifiedName]
  else [model.qualifiedName]

theorem mem_lookupNames_iff (options : RegistryOptions) (model : Model)
    (key : String) :
    key ∈ lookupNames options model ↔ key = model.qualifiedName ∨
      (options.keepBareNames = true ∧ key = model.table) := by
  unfold lookupNames
  split <;> rename_i keeps <;> simp [keeps, or_comm]

theorem qualifiedName_mem_lookupNames (options : RegistryOptions)
    (model : Model) : model.qualifiedName ∈ lookupNames options model :=
  (mem_lookupNames_iff options model _).mpr (Or.inl rfl)

theorem nodup_lookupNames (options : RegistryOptions) (model : Model) :
    (lookupNames options model).Nodup := by
  unfold lookupNames
  split
  · apply List.nodup_cons.mpr
    refine ⟨?_, List.nodup_singleton _⟩
    rw [List.mem_singleton]
    exact Model.table_ne_qualify model.database model.table
  · exact List.nodup_singleton _

/-- The entries of a model in the index. -/
def indexEntries (options : RegistryOptions) (model : Model) :
    List (String × Model) :=
  (lookupNames options model).map fun key => (key, model)

theorem keysOf_indexEntries (options : RegistryOptions) (model : Model) :
    OrderedMap.keysOf (indexEntries options model) =
      lookupNames options model := by
  simp [OrderedMap.keysOf, indexEntries, Function.comp_def]

/-- Whether a model can be added: all its names are still free. -/
def IsFree (registry : Registry) (model : Model) : Prop :=
  ∀ key ∈ lookupNames registry.options model, registry.models.get? key = none

/-- Indexing a model under free names adds its entries at the end. -/
theorem entries_index {registry : Registry} {model : Model}
    (free : registry.IsFree model) :
    (registry.index model).entries =
      registry.models.entries ++ indexEntries registry.options model := by
  have inserted : registry.index model =
      registry.models.insertAll (indexEntries registry.options model) := by
    unfold index indexEntries lookupNames
    split <;> rfl
  rw [inserted, OrderedMap.entries_insertAll]
  rw [keysOf_indexEntries]
  apply List.nodup_append.mpr
  refine ⟨registry.models.keysDistinct, nodup_lookupNames _ _, ?_⟩
  rintro key present other isName rfl
  exact (OrderedMap.not_mem_keys_iff _ _).mpr (free key isName) present

/-- Lookup after indexing a model, whether its names were free or not. -/
theorem get?_index (registry : Registry) (model : Model) (key : String) :
    (registry.index model).get? key =
      if key ∈ lookupNames registry.options model then some model
      else registry.models.get? key := by
  unfold index lookupNames
  split
  · by_cases qualified : key = model.qualifiedName <;>
      by_cases bare : key = model.table <;> simp [qualified, bare]
  · by_cases qualified : key = model.qualifiedName <;> simp [qualified]

/-- The registry with a new open database. -/
def withDatabase (registry : Registry) (name : String)
    (config : DatabaseConfig) : Registry :=
  { registry with
    databases := registry.databases.insert name (.ofConfig config) }

/-- The registry with a new model on an open database. -/
def withModel (registry : Registry) (database : Database) (model : Model) :
    Registry :=
  { registry with
    databases :=
      registry.databases.insert model.database (database.addTable model.table)
    models := registry.index model }

theorem get?_databases_withModel (registry : Registry) (database : Database)
    (model : Model) (name : String) :
    (registry.withModel database model).databases.get? name =
      if name = model.database then some (database.addTable model.table)
      else registry.databases.get? name :=
  OrderedMap.get?_insert _ _ _ _

theorem get?_models_withModel (registry : Registry) (database : Database)
    (model : Model) (key : String) :
    (registry.withModel database model).models.get? key =
      if key ∈ lookupNames registry.options model then some model
      else registry.models.get? key :=
  get?_index registry model key

/-- A model under free names replaces none that is stored. -/
theorem get?_withModel_of_stored {registry : Registry} {database : Database}
    {model other : Model} {key : String} (free : registry.IsFree model)
    (stored : registry.models.get? key = some other) :
    (registry.withModel database model).models.get? key = some other := by
  rw [get?_models_withModel, if_neg, stored]
  intro isName
  rw [free key isName] at stored
  contradiction

/-! ## Calls -/

theorem model_eq_ok_iff (registry : Registry) (key : String) (model : Model) :
    registry.model key = .ok model ↔ registry.models.get? key = some model := by
  unfold Registry.model
  cases registry.models.get? key with
  | none => simp
  | some found => simp

theorem openDatabase_eq_ok_iff (registry next : Registry) (name : String)
    (database : Database) :
    registry.openDatabase name = .ok (next, database) ↔
      (registry.databases.get? name = some database ∧ next = registry) ∨
      (registry.databases.get? name = none ∧
        ∃ config, registry.configs.get? name = some config ∧
          database = .ofConfig config ∧
          next = registry.withDatabase name config) := by
  unfold openDatabase
  cases registry.databases.get? name with
  | some _ => simp [eq_comm, and_comm]
  | none =>
      cases registry.configs.get? name with
      | none => simp
      | some config => simp [withDatabase, eq_comm, and_comm]

theorem isFree_iff (registry : Registry) (model : Model) :
    registry.IsFree model ↔
      registry.models.contains model.qualifiedName = false ∧
      (registry.options.keepBareNames &&
        registry.models.contains model.table) = false := by
  simp only [IsFree, mem_lookupNames_iff, OrderedMap.contains,
    Bool.and_eq_false_iff, Option.isSome_eq_false_iff, Option.isNone_iff_eq_none]
  constructor
  · intro free
    refine ⟨free _ (Or.inl rfl), ?_⟩
    cases keeps : registry.options.keepBareNames with
    | false => exact Or.inl rfl
    | true => exact Or.inr (free _ (Or.inr ⟨keeps, rfl⟩))
  · rintro ⟨qualifiedFree, bareFree⟩ key (rfl | ⟨keeps, rfl⟩)
    · exact qualifiedFree
    · exact bareFree.resolve_left (by simp [keeps])

/-- A definition succeeds exactly on an open database and under free names. -/
theorem define_eq_ok_iff (registry next : Registry) (name : String)
    (config : TableConfig) (attributes : OrderedMap Json) (model : Model) :
    registry.define name config attributes = .ok (next, model) ↔
      model = .ofConfig name config attributes ∧ registry.IsFree model ∧
        ∃ database, registry.databases.get? name = some database ∧
          next = registry.withModel database model := by
  have freeIff : registry.IsFree (.ofConfig name config attributes) ↔
      registry.models.contains (Model.qualify name config.table) = false ∧
      (registry.options.keepBareNames &&
        registry.models.contains config.table) = false :=
    isFree_iff registry (.ofConfig name config attributes)
  constructor
  · intro defined
    unfold define at defined
    split at defined
    · contradiction
    · rename_i database opened
      dsimp only at defined
      split at defined
      · contradiction
      · rename_i qualifiedFree
        split at defined
        · contradiction
        · rename_i bareFree
          cases defined
          refine ⟨rfl, freeIff.mpr ⟨?_, ?_⟩, database, opened, rfl⟩
          · exact Bool.eq_false_iff.mpr qualifiedFree
          · exact Bool.eq_false_iff.mpr bareFree
  · rintro ⟨rfl, free, database, opened, rfl⟩
    obtain ⟨qualifiedFree, bareFree⟩ := freeIff.mp free
    unfold define
    rw [opened]
    dsimp only
    rw [if_neg (Bool.eq_false_iff.mp qualifiedFree),
      if_neg (Bool.eq_false_iff.mp bareFree)]
    rfl

/-- The registry after a call. -/
def after (registry : Registry) : Call → Registry
  | .configure config => registry.configure config
  | .openDatabase name =>
      match registry.openDatabase name with
      | .ok (next, _) => next
      | .error _ => registry
  | .loadModule database tableModule =>
      match registry.loadModule database tableModule with
      | .ok (next, _) => next
      | .error _ => registry
  | .define database config attributes =>
      match registry.define database config attributes with
      | .ok (next, _) => next
      | .error _ => registry

/-- The registry after a sequence of calls. -/
def run (registry : Registry) (calls : List Call) : Registry :=
  calls.foldl after registry

/-- What a call can do to a registry. -/
inductive Step (registry : Registry) : Registry → Prop
  | stay : Step registry registry
  | configure (config : DatabaseConfig) :
      Step registry (registry.configure config)
  | openDatabase (name : String) (config : DatabaseConfig)
      (closed : registry.databases.get? name = none)
      (configured : registry.configs.get? name = some config) :
      Step registry (registry.withDatabase name config)
  | define (database : Database) (model : Model)
      (opened : registry.databases.get? model.database = some database)
      (free : registry.IsFree model) :
      Step registry (registry.withModel database model)

/-- Two operations in a row succeed if each does. -/
theorem bind_eq_ok_iff {α β : Type} (first : Except Error α)
    (second : α → Except Error β) (result : β) :
    (first >>= second) = .ok result ↔
      ∃ middle, first = .ok middle ∧ second middle = .ok result := by
  cases first with
  | error failure =>
      constructor
      · intro succeeded
        contradiction
      · rintro ⟨middle, succeeded, -⟩
        contradiction
  | ok middle =>
      constructor
      · exact fun succeeded => ⟨middle, rfl, succeeded⟩
      · rintro ⟨other, equal, succeeded⟩
        cases equal
        exact succeeded

/-- Loading a module defines its table, or does nothing if it has none. -/
theorem loadModule_eq_ok_iff (registry next : Registry) (name : String)
    (tableModule : TableModule) (model : Option Model) :
    registry.loadModule name tableModule = .ok (next, model) ↔
      (tableModule.config = none ∧ next = registry ∧ model = none) ∨
      ∃ config defined, tableModule.config = some config ∧
        registry.define name config tableModule.attributes =
          .ok (next, defined) ∧ model = some defined := by
  unfold loadModule
  cases tableModule.config with
  | none => simp [eq_comm]
  | some config =>
      dsimp only
      rw [bind_eq_ok_iff]
      constructor
      · rintro ⟨⟨middle, defined⟩, succeeded, equal⟩
        cases equal
        exact Or.inr ⟨config, defined, rfl, succeeded, rfl⟩
      · rintro (⟨absent, -⟩ | ⟨other, defined, equal, succeeded, rfl⟩)
        · contradiction
        · cases equal
          exact ⟨(next, defined), succeeded, rfl⟩

theorem step_of_define_eq_ok {registry next : Registry} {name : String}
    {config : TableConfig} {attributes : OrderedMap Json} {model : Model}
    (defined : registry.define name config attributes = .ok (next, model)) :
    Step registry next := by
  obtain ⟨rfl, free, database, opened, rfl⟩ :=
    (define_eq_ok_iff _ _ _ _ _ _).mp defined
  exact .define database _ opened free

/-- Every call, successful or not, takes one step. -/
theorem step_after (registry : Registry) (call : Call) :
    Step registry (registry.after call) := by
  cases call with
  | configure config => exact .configure config
  | openDatabase name =>
      unfold after
      dsimp only
      split
      · rename_i next database opened
        rcases (openDatabase_eq_ok_iff _ _ _ _).mp opened with
          ⟨-, rfl⟩ | ⟨closed, config, configured, -, rfl⟩
        · exact .stay
        · exact .openDatabase name config closed configured
      · exact .stay
  | loadModule database tableModule =>
      unfold after
      dsimp only
      split
      · rename_i next model loaded
        rcases (loadModule_eq_ok_iff _ _ _ _ _).mp loaded with
          ⟨-, rfl, -⟩ | ⟨config, _, -, defined, -⟩
        · exact .stay
        · exact step_of_define_eq_ok defined
      · exact .stay
  | define database config attributes =>
      unfold after
      dsimp only
      split
      · rename_i defined
        exact step_of_define_eq_ok defined
      · exact .stay

/-- What every step keeps, every run keeps. -/
theorem run_induction (holds : Registry → Prop)
    (keeps : ∀ registry next, holds registry → Step registry next → holds next)
    {registry : Registry} (start : holds registry) (calls : List Call) :
    holds (registry.run calls) := by
  induction calls generalizing registry with
  | nil => exact start
  | cons call rest inductionHypothesis =>
      exact inductionHypothesis (keeps _ _ start (step_after registry call))

end Registry
end TerseSchema
