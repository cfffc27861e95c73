import TerseSchema.Proofs.Registry.Run

/-!
# Consistency of the model index

Qualified and bare names share one index, and a name may contain dots, so that
different tables can claim the same text.  A table is therefore added only if
all of its names are free.  This keeps the index and the tables of the open
databases in step: each table is found under its names, each key leads to one
table, and nothing that was stored is ever replaced.
-/

namespace TerseSchema
namespace Registry

/-- The tables of all open databases, counted as often as they are listed. -/
def tableCount (registry : Registry) : Nat :=
  registry.databases.total fun database => database.tables.length

/-- The number of names under which each model is looked up. -/
def namesPerModel (options : RegistryOptions) : Nat :=
  if options.keepBareNames then 2 else 1

theorem length_lookupNames (options : RegistryOptions) (model : Model) :
    (lookupNames options model).length = namesPerModel options := by
  unfold lookupNames namesPerModel
  split <;> rfl

/-- Lookup names depend on the database and the table alone. -/
theorem lookupNames_congr (options : RegistryOptions) {first second : Model}
    (sameDatabase : first.database = second.database)
    (sameTable : first.table = second.table) :
    lookupNames options first = lookupNames options second := by
  unfold lookupNames Model.qualifiedName
  rw [sameDatabase, sameTable]

/-! ## Counting -/

/-- A database that is opened comes without tables. -/
theorem tableCount_withDatabase {registry : Registry} {name : String}
    (config : DatabaseConfig)
    (closed : registry.databases.get? name = none) :
    (registry.withDatabase name config).tableCount = registry.tableCount := by
  have counted := OrderedMap.total_insert
    (fun database : Database => database.tables.length)
    registry.databases name (.ofConfig config)
  rw [closed] at counted
  exact counted

theorem tableCount_withModel {registry : Registry} {database : Database}
    {model : Model}
    (opened : registry.databases.get? model.database = some database) :
    (registry.withModel database model).tableCount =
      registry.tableCount + 1 := by
  have counted := OrderedMap.total_insert
    (fun database : Database => database.tables.length)
    registry.databases model.database (database.addTable model.table)
  have grown : (database.addTable model.table).tables.length =
      database.tables.length + 1 := List.length_append
  rw [opened, Option.map_some, Option.getD_some, grown] at counted
  unfold tableCount withModel
  dsimp only
  omega

theorem size_models_withModel {registry : Registry} {database : Database}
    {model : Model} (free : registry.IsFree model) :
    (registry.withModel database model).models.size =
      registry.models.size + namesPerModel registry.options := by
  unfold OrderedMap.size withModel
  rw [entries_index free, List.length_append, indexEntries, List.length_map,
    length_lookupNames]

/-! ## The invariant -/

/-- The index and the tables of the open databases belong together. -/
structure IsConsistent (registry : Registry) : Prop where
  configNamed : ∀ {name : String} {config : DatabaseConfig},
    registry.configs.get? name = some config → config.name = name
  databaseNamed : ∀ {name : String} {database : Database},
    registry.databases.get? name = some database → database.name = name
  tablesDistinct : ∀ {name : String} {database : Database},
    registry.databases.get? name = some database → database.tables.Nodup
  tableIndexed : ∀ {name table : String} {database : Database},
    registry.databases.get? name = some database → table ∈ database.tables →
      ∃ model : Model, model.database = name ∧ model.table = table ∧
        ∀ key ∈ lookupNames registry.options model,
          registry.models.get? key = some model
  keyOwned : ∀ {key : String} {model : Model},
    registry.models.get? key = some model →
      key ∈ lookupNames registry.options model ∧
        ∃ database, registry.databases.get? model.database = some database ∧
          model.table ∈ database.tables
  keyCount : registry.models.size =
    namesPerModel registry.options * registry.tableCount

/-! ## Each step keeps the registry consistent -/

theorem isConsistent_new (options : RegistryOptions) :
    IsConsistent (new options) where
  configNamed stored := nomatch stored
  databaseNamed stored := nomatch stored
  tablesDistinct stored := nomatch stored
  tableIndexed stored := nomatch stored
  keyOwned stored := nomatch stored
  keyCount := rfl

namespace IsConsistent

variable {registry : Registry}

theorem configure (consistent : IsConsistent registry)
    (config : DatabaseConfig) : IsConsistent (registry.configure config) where
  configNamed {name stored} found := by
    rcases OrderedMap.get?_insert_cases found with ⟨rfl, rfl⟩ | old
    · rfl
    · exact consistent.configNamed old
  databaseNamed := consistent.databaseNamed
  tablesDistinct := consistent.tablesDistinct
  tableIndexed := consistent.tableIndexed
  keyOwned := consistent.keyOwned
  keyCount := consistent.keyCount

/-- A database that is opened comes without tables, and under the name of its
configuration. -/
theorem withDatabase (consistent : IsConsistent registry) {name : String}
    {config : DatabaseConfig}
    (closed : registry.databases.get? name = none)
    (configured : registry.configs.get? name = some config) :
    IsConsistent (registry.withDatabase name config) := by
  refine ⟨consistent.configNamed, ?_, ?_, ?_, ?_, ?_⟩
  · intro other database found
    rcases OrderedMap.get?_insert_cases found with ⟨rfl, rfl⟩ | old
    · exact consistent.configNamed configured
    · exact consistent.databaseNamed old
  · intro other database found
    rcases OrderedMap.get?_insert_cases found with ⟨rfl, rfl⟩ | old
    · exact List.nodup_nil
    · exact consistent.tablesDistinct old
  · intro other table database found member
    rcases OrderedMap.get?_insert_cases found with ⟨rfl, rfl⟩ | old
    · exact absurd member List.not_mem_nil
    · exact consistent.tableIndexed old member
  · intro key model found
    obtain ⟨isName, database, opened, member⟩ := consistent.keyOwned found
    refine ⟨isName, database, ?_, member⟩
    have other : model.database ≠ name := by
      intro equal
      rw [equal, closed] at opened
      contradiction
    simp only [Registry.withDatabase, OrderedMap.get?_insert, if_neg other]
    exact opened
  · rw [tableCount_withDatabase config closed]
    exact consistent.keyCount

/-- A table whose names are free is not yet listed. -/
theorem table_not_mem (consistent : IsConsistent registry)
    {database : Database} {model : Model}
    (opened : registry.databases.get? model.database = some database)
    (free : registry.IsFree model) : model.table ∉ database.tables := by
  intro member
  obtain ⟨other, sameDatabase, sameTable, indexed⟩ :=
    consistent.tableIndexed opened member
  rw [lookupNames_congr registry.options sameDatabase sameTable] at indexed
  have isName := qualifiedName_mem_lookupNames registry.options model
  have taken := indexed _ isName
  rw [free _ isName] at taken
  contradiction

section
variable {database : Database} {model : Model}

/-- A new model is indexed for its table, and the keys of other models stay
theirs because none of them was free. -/
theorem tableIndexed_withModel (consistent : IsConsistent registry)
    (opened : registry.databases.get? model.database = some database)
    (free : registry.IsFree model) {name table : String} {found : Database}
    (stored : (registry.withModel database model).databases.get? name =
      some found)
    (member : table ∈ found.tables) :
    ∃ other : Model, other.database = name ∧ other.table = table ∧
      ∀ key ∈ lookupNames registry.options other,
        (registry.withModel database model).models.get? key =
          some other := by
  -- A table that was listed keeps its model, also on the database that grows.
  have earlier : ∀ {old : Database},
      registry.databases.get? name = some old → table ∈ old.tables →
      ∃ other : Model, other.database = name ∧ other.table = table ∧
        ∀ key ∈ lookupNames registry.options other,
          (registry.withModel database model).models.get? key =
            some other := by
    intro old oldStored oldMember
    obtain ⟨other, sameDatabase, sameTable, indexed⟩ :=
      consistent.tableIndexed oldStored oldMember
    refine ⟨other, sameDatabase, sameTable, fun key isName => ?_⟩
    exact get?_withModel_of_stored free (indexed key isName)
  rcases OrderedMap.get?_insert_cases stored with ⟨rfl, rfl⟩ | old
  · rcases List.mem_append.mp member with oldMember | isNew
    · exact earlier opened oldMember
    · refine ⟨model, rfl, (List.mem_singleton.mp isNew).symm, ?_⟩
      intro key isName
      rw [get?_models_withModel]
      exact if_pos isName
  · exact earlier old member

/-- A new key belongs to the new table, and an old one to its old table. -/
theorem keyOwned_withModel (consistent : IsConsistent registry)
    (opened : registry.databases.get? model.database = some database)
    {key : String} {other : Model}
    (stored : (registry.withModel database model).models.get? key =
      some other) :
    key ∈ lookupNames registry.options other ∧
      ∃ found, (registry.withModel database model).databases.get?
        other.database = some found ∧ other.table ∈ found.tables := by
  rw [get?_models_withModel] at stored
  split at stored
  · rename_i isName
    cases stored
    refine ⟨isName, database.addTable model.table, ?_, ?_⟩
    · rw [get?_databases_withModel, if_pos rfl]
    · exact List.mem_append_right _ (List.mem_singleton_self _)
  · obtain ⟨isName, old, oldStored, member⟩ := consistent.keyOwned stored
    refine ⟨isName, ?_⟩
    rw [get?_databases_withModel]
    split
    · rename_i isDatabase
      rw [isDatabase, opened] at oldStored
      cases oldStored
      exact ⟨_, rfl, List.mem_append_left _ member⟩
    · exact ⟨old, oldStored, member⟩

/-- A model under free names adds one table, and as many keys as it has
names. -/
theorem withModel (consistent : IsConsistent registry)
    (opened : registry.databases.get? model.database = some database)
    (free : registry.IsFree model) :
    IsConsistent (registry.withModel database model) := by
  have absent := consistent.table_not_mem opened free
  refine ⟨consistent.configNamed, ?_, ?_,
    consistent.tableIndexed_withModel opened free,
    consistent.keyOwned_withModel opened, ?_⟩
  · intro name found stored
    rcases OrderedMap.get?_insert_cases stored with ⟨rfl, rfl⟩ | old
    · have named : database.name = model.database :=
        consistent.databaseNamed opened
      exact named
    · exact consistent.databaseNamed old
  · intro name found stored
    rcases OrderedMap.get?_insert_cases stored with ⟨rfl, rfl⟩ | old
    · apply List.nodup_append.mpr
      refine ⟨consistent.tablesDistinct opened, List.nodup_singleton _, ?_⟩
      rintro table member other isNew rfl
      exact absent (List.mem_singleton.mp isNew ▸ member)
    · exact consistent.tablesDistinct old
  · rw [size_models_withModel free, tableCount_withModel opened,
      consistent.keyCount, Nat.mul_add, Nat.mul_one]
    rfl

end

theorem of_step (consistent : IsConsistent registry) {next : Registry}
    (step : Step registry next) : IsConsistent next := by
  cases step with
  | stay => exact consistent
  | configure config => exact consistent.configure config
  | openDatabase name config closed configured =>
      exact consistent.withDatabase closed configured
  | define database model opened free =>
      exact consistent.withModel opened free

/-- A key belongs to exactly one table.  Two tables with one key would both be
indexed under it, with models of their own. -/
theorem existsUnique_table (consistent : IsConsistent registry) {key : String}
    (present : key ∈ registry.models.keys) :
    ∃! entry : String × String,
      (∃ database, registry.databases.get? entry.1 = some database ∧
        entry.2 ∈ database.tables) ∧
      (key = Model.qualify entry.1 entry.2 ∨
        (registry.options.keepBareNames = true ∧ key = entry.2)) := by
  obtain ⟨model, stored⟩ := (OrderedMap.mem_keys_iff _ key).mp present
  obtain ⟨isName, database, opened, member⟩ := consistent.keyOwned stored
  refine ⟨(model.database, model.table), ⟨⟨database, opened, member⟩,
    (mem_lookupNames_iff _ _ _).mp isName⟩, ?_⟩
  rintro ⟨otherName, otherTable⟩
    ⟨⟨otherDatabase, otherOpened, otherMember⟩, otherIsName⟩
  obtain ⟨other, rfl, rfl, indexed⟩ :=
    consistent.tableIndexed otherOpened otherMember
  have otherStored := indexed key
    ((mem_lookupNames_iff _ other key).mpr otherIsName)
  rw [stored] at otherStored
  cases otherStored
  rfl

end IsConsistent

/-! ## Runs from a new registry -/

/-- The registry that is reached by calls from one without databases. -/
def reached (options : RegistryOptions) (calls : List Call) : Registry :=
  (new options).run calls

theorem isConsistent_reached (options : RegistryOptions)
    (calls : List Call) : IsConsistent (reached options calls) :=
  run_induction IsConsistent
    (fun _ _ consistent step => consistent.of_step step)
    (isConsistent_new options) calls

/-- No call changes the options. -/
theorem options_reached (options : RegistryOptions) (calls : List Call) :
    (reached options calls).options = options := by
  refine run_induction (fun registry => registry.options = options)
    ?_ rfl calls
  intro registry next unchanged step
  cases step <;> exact unchanged

/-- What a key has led to, it leads to after any further calls. -/
theorem get?_run {registry : Registry} {key : String} {model : Model}
    (stored : registry.models.get? key = some model) (calls : List Call) :
    (registry.run calls).models.get? key = some model := by
  refine run_induction
    (fun registry => registry.models.get? key = some model)
    ?_ stored calls
  intro registry next stored step
  cases step with
  | stay => exact stored
  | configure config => exact stored
  | openDatabase name config closed configured => exact stored
  | define database other opened free =>
      exact get?_withModel_of_stored free stored

/-- After every run, each table of an open database is found under its
qualified name, and under its bare name if those are kept.  No database lists
a table twice and each has its own name.  Each key belongs to exactly one
table, there are as many keys as tables with their names, a key leads to a
model of that name, and no later call changes to which. -/
theorem reached_index_consistent (options : RegistryOptions)
    (calls : List Call) :
    (∀ name database,
      (reached options calls).database? name = some database →
        database.name = name ∧ database.tables.Nodup ∧
        ∀ table ∈ database.tables, ∃ model : Model,
          model.database = name ∧ model.table = table ∧
          (reached options calls).model (Model.qualify name table) =
            .ok model ∧
          (options.keepBareNames = true →
            (reached options calls).model table = .ok model)) ∧
    (∀ key ∈ (reached options calls).models.keys,
      ∃! entry : String × String,
        (∃ database,
          (reached options calls).database? entry.1 = some database ∧
          entry.2 ∈ database.tables) ∧
        (key = Model.qualify entry.1 entry.2 ∨
          (options.keepBareNames = true ∧ key = entry.2))) ∧
    (reached options calls).models.size =
      (if options.keepBareNames then 2 else 1) *
        (reached options calls).tableCount ∧
    ∀ key model, (reached options calls).model key = .ok model →
      (key = model.qualifiedName ∨
        (options.keepBareNames = true ∧ key = model.table)) ∧
      ∀ further,
        (reached options (calls ++ further)).model key = .ok model := by
  have consistent := isConsistent_reached options calls
  have sameOptions := options_reached options calls
  simp only [model_eq_ok_iff, database?]
  refine ⟨?_, ?_, ?_, ?_⟩
  · intro name database opened
    refine ⟨consistent.databaseNamed opened,
      consistent.tablesDistinct opened, ?_⟩
    intro table member
    obtain ⟨model, rfl, rfl, indexed⟩ :=
      consistent.tableIndexed opened member
    simp only [sameOptions, mem_lookupNames_iff] at indexed
    exact ⟨model, rfl, rfl, indexed _ (Or.inl rfl),
      fun keeps => indexed _ (Or.inr ⟨keeps, rfl⟩)⟩
  · intro key present
    have unique := consistent.existsUnique_table present
    rwa [sameOptions] at unique
  · rw [consistent.keyCount, sameOptions]
    rfl
  · intro key model stored
    constructor
    · have isName := (consistent.keyOwned stored).1
      rwa [sameOptions, mem_lookupNames_iff] at isName
    · intro further
      have extended : reached options (calls ++ further) =
          (reached options calls).run further := List.foldl_append
      rw [extended]
      exact get?_run stored further

end Registry
end TerseSchema
