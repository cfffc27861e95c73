import TerseSchema.Proofs.Registry.Run

/-!
# Operations in place

An operation that changes a registry in place makes checks and writes one after
the other, and what it has written stays even if it fails later.  Spelled out
like this, an operation might leave a table half defined: under one of its
names but not under the other, or in the index but not on its database.

None does, because each makes all its checks before its first write.  Each is
all or nothing: it has the outcome of the corresponding function, and a failure
leaves the registry as it was.  A definition that succeeds adds one table at the
end of one database and its model under names that were free, and changes
nothing else.
-/

namespace TerseSchema
namespace Registry

/-! ## Checks and writes in order -/

/-- An operation on a registry in place.  A failure keeps what was written
before it. -/
abbrev Operation (α : Type) := EStateM Error Registry α

/-- The registry that an operation leaves, whether it fails or not. -/
def Operation.leaves {α : Type} (operation : Operation α)
    (registry : Registry) : Registry :=
  match operation.run registry with
  | .ok _ next => next
  | .error _ next => next

namespace InPlace

/-- Open a database unless it is open, and then read it from the registry. -/
def openDatabase (name : String) : Operation Database := do
  if !(← get).databases.contains name then
    match (← get).configs.get? name with
    | none => throw (.databaseNotInitialized name)
    | some config =>
        modify fun registry =>
          { registry with
            databases := registry.databases.insert name (.ofConfig config) }
  match (← get).databases.get? name with
  | some database => return database
  -- The database is open by now, so this is never reached.
  | none => throw (.databaseNotInitialized name)

/-- Write a model under its bare name if those are kept, then under its
qualified name, and then its table at the end of those of its database. -/
def writeModel (model : Model) : Operation Unit := do
  if (← get).options.keepBareNames then
    modify fun registry =>
      { registry with models := registry.models.insert model.table model }
  modify fun registry =>
    { registry with
      models := registry.models.insert model.qualifiedName model }
  modify fun registry =>
    match registry.databases.get? model.database with
    | some database =>
        { registry with
          databases := registry.databases.insert model.database
            (database.addTable model.table) }
    | none => registry

/-- Check the database and the names of a table, and then write its model. -/
def define (name : String) (config : TableConfig)
    (attributes : OrderedMap Json) : Operation Model := do
  if !(← get).databases.contains name then
    throw (.databaseNotInitialized name)
  let qualified := Model.qualify name config.table
  if (← get).models.contains qualified then
    throw (.duplicateTable qualified)
  if (← get).options.keepBareNames && (← get).models.contains config.table then
    throw (.duplicateModel config.table)
  let model := Model.ofConfig name config attributes
  writeModel model
  return model

/-- Define the table of a module, if it has one. -/
def loadModule (name : String) (tableModule : TableModule) :
    Operation (Option Model) :=
  match tableModule.config with
  | none => return none
  | some config =>
      return some (← define name config tableModule.attributes)

/-- Make a call without using its result. -/
def perform : Call → Operation Unit
  | .configure config => modify fun registry => registry.configure config
  | .openDatabase name => do
      let _ ← openDatabase name
  | .loadModule name tableModule => do
      let _ ← loadModule name tableModule
  | .define name config attributes => do
      let _ ← define name config attributes

/-- The registry after calls in place.  Each goes on with what the one before
has left, also if that one failed. -/
def run (registry : Registry) (calls : List Call) : Registry :=
  calls.foldl (fun reached call => (perform call).leaves reached) registry

end InPlace

/-! ## All or nothing -/

/-- The outcome of a function as that of an operation in place: a success goes
on with the new registry, and a failure leaves the old one. -/
def atomically {α : Type} (registry : Registry) :
    Except Error (Registry × α) → EStateM.Result Error Registry α
  | .ok (next, result) => .ok result next
  | .error failure => .error failure registry

namespace InPlace

theorem run_openDatabase (registry : Registry) (name : String) :
    (openDatabase name).run registry =
      atomically registry (registry.openDatabase name) := by
  unfold openDatabase Registry.openDatabase
  cases opened : registry.databases.get? name with
  | some database => simp [OrderedMap.contains, opened, atomically]
  | none =>
      cases configured : registry.configs.get? name with
      | none => simp [OrderedMap.contains, opened, configured, atomically]
      | some config =>
          simp [OrderedMap.contains, opened, configured, atomically]

/-- On an open database the writes add the model as a whole. -/
theorem run_writeModel {registry : Registry} {model : Model}
    {database : Database}
    (opened : registry.databases.get? model.database = some database) :
    (writeModel model).run registry =
      .ok () (registry.withModel database model) := by
  unfold writeModel withModel index
  cases keeps : registry.options.keepBareNames <;> simp [keeps, opened]

/-- The checks fail one after the other on the registry as it was, and the
writes come after all of them. -/
theorem run_define (registry : Registry) (name : String)
    (config : TableConfig) (attributes : OrderedMap Json) :
    (define name config attributes).run registry =
      atomically registry (registry.define name config attributes) := by
  unfold define Registry.define
  cases opened : registry.databases.get? name with
  | none => simp [OrderedMap.contains, opened, atomically]
  | some database =>
      have isOpen : registry.databases.contains name = true := by
        simp [OrderedMap.contains, opened]
      cases qualifiedTaken :
          registry.models.contains (Model.qualify name config.table) with
      | true => simp [isOpen, qualifiedTaken, atomically]
      | false =>
          cases bareTaken : registry.options.keepBareNames &&
              registry.models.contains config.table with
          | true =>
              simp only [EStateM.run_bind, EStateM.run_get, isOpen,
                qualifiedTaken, bareTaken, Bool.not_true, Bool.false_eq_true,
                if_false, if_true]
              rfl
          | false =>
              have written : (writeModel (.ofConfig name config
                  attributes)).run registry = .ok () _ := run_writeModel opened
              simp only [EStateM.run_bind, EStateM.run_get, isOpen,
                qualifiedTaken, bareTaken, written, Bool.not_true,
                Bool.false_eq_true, if_false]
              rfl

theorem run_loadModule (registry : Registry) (name : String)
    (tableModule : TableModule) :
    (loadModule name tableModule).run registry =
      atomically registry (registry.loadModule name tableModule) := by
  unfold loadModule Registry.loadModule
  cases tableModule.config with
  | none => rfl
  | some config =>
      dsimp only
      rw [EStateM.run_bind, run_define]
      cases registry.define name config tableModule.attributes with
      | error failure => rfl
      | ok defined => rfl

/-- A call in place leaves the registry after the call, also if it fails. -/
theorem leaves_perform (registry : Registry) (call : Call) :
    (perform call).leaves registry = registry.after call := by
  unfold Operation.leaves
  cases call with
  | configure config => rfl
  | openDatabase name =>
      unfold perform after
      dsimp only
      rw [EStateM.run_bind, run_openDatabase]
      cases registry.openDatabase name <;> rfl
  | loadModule name tableModule =>
      unfold perform after
      dsimp only
      rw [EStateM.run_bind, run_loadModule]
      cases registry.loadModule name tableModule <;> rfl
  | define name config attributes =>
      unfold perform after
      dsimp only
      rw [EStateM.run_bind, run_define]
      cases registry.define name config attributes <;> rfl

theorem run_eq (registry : Registry) (calls : List Call) :
    run registry calls = registry.run calls := by
  induction calls generalizing registry with
  | nil => rfl
  | cons call rest inductionHypothesis =>
      unfold run Registry.run
      rw [List.foldl_cons, List.foldl_cons, leaves_perform]
      exact inductionHypothesis (registry.after call)

end InPlace

/-! ## What a success changes -/

/-- The next registry has one more table and is the same otherwise. -/
structure AddsTable (registry next : Registry) (model : Model) : Prop where
  sameOptions : next.options = registry.options
  sameConfigs : next.configs = registry.configs
  sameNames : next.databases.keys = registry.databases.keys
  otherDatabases : ∀ other, other ≠ model.database →
    next.database? other = registry.database? other
  tables : ∃ database, registry.database? model.database = some database ∧
    next.database? model.database =
      some { database with tables := database.tables ++ [model.table] }
  free : ∀ key ∈ lookupNames registry.options model,
    registry.models.get? key = none
  indexed : ∀ key, next.models.get? key =
    if key ∈ lookupNames registry.options model then some model
    else registry.models.get? key

/-- The next registry has the given database open and is the same otherwise. -/
structure Opens (registry next : Registry) (name : String)
    (database : Database) : Prop where
  sameOptions : next.options = registry.options
  sameConfigs : next.configs = registry.configs
  sameModels : next.models = registry.models
  databases : registry.database? name = some database ∧
      next.databases = registry.databases ∨
    registry.database? name = none ∧
      next.databases.entries =
        registry.databases.entries ++ [(name, database)] ∧
      ∃ config, registry.configs.get? name = some config ∧
        database = .ofConfig config

theorem addsTable_withModel {registry : Registry} {database : Database}
    {model : Model}
    (opened : registry.databases.get? model.database = some database)
    (free : registry.IsFree model) :
    registry.AddsTable (registry.withModel database model) model where
  sameOptions := rfl
  sameConfigs := rfl
  sameNames := by
    have present : model.database ∈ registry.databases.keys :=
      (OrderedMap.mem_keys_iff _ _).mpr ⟨database, opened⟩
    unfold withModel
    rw [OrderedMap.keys_insert, if_pos present]
  otherDatabases other differs := by
    unfold database?
    rw [get?_databases_withModel, if_neg differs]
  tables := by
    refine ⟨database, opened, ?_⟩
    unfold database?
    rw [get?_databases_withModel, if_pos rfl]
    rfl
  free := free
  indexed := get?_models_withModel registry database model

theorem opens_of_openDatabase_eq_ok {registry next : Registry} {name : String}
    {database : Database}
    (succeeded : registry.openDatabase name = .ok (next, database)) :
    registry.Opens next name database := by
  rcases (openDatabase_eq_ok_iff _ _ _ _).mp succeeded with
    ⟨opened, rfl⟩ | ⟨closed, config, configured, rfl, rfl⟩
  · exact ⟨rfl, rfl, rfl, Or.inl ⟨opened, rfl⟩⟩
  · refine ⟨rfl, rfl, rfl, Or.inr ⟨closed, ?_, config, configured, rfl⟩⟩
    have absent : name ∉ registry.databases.keys :=
      (OrderedMap.not_mem_keys_iff _ _).mpr closed
    exact OrderedMap.entries_insert_of_absent _ absent

/-- Opening a database, defining a table and loading a module, each check by
check and write by write, have the outcome of the corresponding functions, and
whatever they fail on, the registry is then as it was.

An opened database was open before or comes last, as its configuration says.  A
defined table was added at the end of its database, and its model under names
that were free, and nothing else has changed.  A module without a table is
passed over. -/
theorem operations_atomic (registry : Registry) (name : String) :
    (InPlace.openDatabase name).run registry =
        atomically registry (registry.openDatabase name) ∧
      (∀ config attributes,
        (InPlace.define name config attributes).run registry =
          atomically registry (registry.define name config attributes)) ∧
      (∀ tableModule,
        (InPlace.loadModule name tableModule).run registry =
          atomically registry (registry.loadModule name tableModule)) ∧
      (∀ call, (InPlace.perform call).leaves registry =
        registry.after call) ∧
      (∀ next database,
        registry.openDatabase name = .ok (next, database) →
        registry.Opens next name database) ∧
      (∀ config attributes next model,
        registry.define name config attributes = .ok (next, model) →
        model = .ofConfig name config attributes ∧
          registry.AddsTable next model) ∧
      ∀ attributes,
        registry.loadModule name ⟨none, attributes⟩ = .ok (registry, none) := by
  refine ⟨InPlace.run_openDatabase registry name,
    InPlace.run_define registry name, InPlace.run_loadModule registry name,
    InPlace.leaves_perform registry, fun next database =>
      opens_of_openDatabase_eq_ok, ?_, fun attributes => rfl⟩
  intro config attributes next model defined
  obtain ⟨isModel, free, database, opened, rfl⟩ :=
    (define_eq_ok_iff _ _ _ _ _ _).mp defined
  subst isModel
  exact ⟨rfl, addsTable_withModel opened free⟩

end Registry
end TerseSchema
