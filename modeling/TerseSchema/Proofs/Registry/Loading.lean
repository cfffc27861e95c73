import TerseSchema.Proofs.OrderedMap.LastWrite
import TerseSchema.Proofs.Registry.Run

/-!
# Loading modules

Loading opens databases and adds the models of modules, one after the other.
What it leads to is described by two lists: the names that were opened so far
and the models that were added so far.  Each operation that succeeds extends
the lists, and it succeeds exactly if the longer lists are still admitted: a
name has to be configured, and all lookup names have to differ.
-/

namespace TerseSchema

/-- The model of a module on a database, if the module has a table. -/
def Model.ofModule? (database : String) (tableModule : TableModule) :
    Option Model :=
  tableModule.config.map fun config =>
    .ofConfig database config tableModule.attributes

/-- The models of the modules of a database. -/
def Model.ofModules (database : String) (modules : List TableModule) :
    List Model :=
  modules.filterMap (ofModule? database)

theorem Model.ofModules_concat (database : String)
    (modules : List TableModule) (last : TableModule) :
    ofModules database (modules ++ [last]) =
      ofModules database modules ++ (ofModule? database last).toList := by
  unfold ofModules
  rw [List.filterMap_append]
  cases absent : ofModule? database last with
  | none => simp [absent]
  | some model => simp [absent]

namespace Registry

/-! ## Operations in a row -/

section Sequences

variable {σ ι : Type} {load : σ → ι → Except Error σ}
  (holds : List ι → σ → Prop)

/-- What is kept while items are taken up one by one holds of all of them. -/
theorem foldlM_induction
    (keeps : ∀ done state item next, holds done state →
      load state item = .ok next → holds (done ++ [item]) next)
    (done : List ι) {items : List ι} {start result : σ}
    (begins : holds done start)
    (succeeded : items.foldlM load start = .ok result) :
    holds (done ++ items) result := by
  induction items generalizing done start with
  | nil =>
      cases succeeded
      rwa [List.append_nil]
  | cons item rest inductionHypothesis =>
      rw [List.foldlM_cons] at succeeded
      obtain ⟨next, loaded, remaining⟩ := (bind_eq_ok_iff _ _ _).mp succeeded
      rw [List.append_cons]
      exact inductionHypothesis (done ++ [item])
        (keeps _ _ _ _ begins loaded) remaining

/-- If a list of items is admitted then so are its beginnings, and if each
item that is admitted next can be taken up then so can the whole list. -/
theorem exists_foldlM_eq_ok (admits : List ι → Prop)
    (keeps : ∀ done state item next, holds done state →
      load state item = .ok next → holds (done ++ [item]) next)
    (proceeds : ∀ done state item, holds done state →
      admits (done ++ [item]) → ∃ next, load state item = .ok next)
    (restricts : ∀ front back, admits (front ++ back) → admits front)
    (done : List ι) {items : List ι} {start : σ}
    (begins : holds done start) (admitted : admits (done ++ items)) :
    ∃ result, items.foldlM load start = .ok result := by
  -- What is done grows at its end by the item that the list loses at its head,
  -- so that the admitted list stays the same.
  induction items generalizing done start with
  | nil => exact ⟨start, rfl⟩
  | cons item rest inductionHypothesis =>
      rw [List.append_cons] at admitted
      obtain ⟨next, loaded⟩ :=
        proceeds done start item begins (restricts _ _ admitted)
      obtain ⟨result, remaining⟩ :=
        inductionHypothesis (done ++ [item])
          (keeps _ _ _ _ begins loaded) admitted
      refine ⟨result, ?_⟩
      rw [List.foldlM_cons]
      exact (bind_eq_ok_iff _ _ _).mpr ⟨next, loaded, remaining⟩

end Sequences

/-! ## The registry of two lists -/

/-- All names under which models are looked up. -/
def allNames (options : RegistryOptions) (models : List Model) :
    List String :=
  models.flatMap (lookupNames options)

theorem nodup_allNames_of_append {options : RegistryOptions}
    {front back : List Model}
    (distinct : (allNames options (front ++ back)).Nodup) :
    (allNames options front).Nodup := by
  unfold allNames at distinct ⊢
  rw [List.flatMap_append] at distinct
  exact (List.nodup_append.mp distinct).1

/-- The tables of the models of a database, in order. -/
def tablesOf (models : List Model) (name : String) : List String :=
  (models.filter fun model => model.database == name).map Model.table

theorem tablesOf_append (front back : List Model) (name : String) :
    tablesOf (front ++ back) name =
      tablesOf front name ++ tablesOf back name := by
  unfold tablesOf
  rw [List.filter_append, List.map_append]

theorem tablesOf_concat (models : List Model) (last : Model)
    (name : String) :
    tablesOf (models ++ [last]) name =
      if last.database = name then tablesOf models name ++ [last.table]
      else tablesOf models name := by
  rw [tablesOf_append]
  unfold tablesOf
  split
  · rename_i isDatabase
    simp [isDatabase]
  · rename_i isOther
    simp [isOther]

/-- A registry in which the databases of the given names were opened, and then
the given models were added to them, in this order. -/
structure IsLoaded (base : Registry) (opened : List String)
    (models : List Model) (registry : Registry) : Prop where
  sameOptions : registry.options = base.options
  sameConfigs : registry.configs = base.configs
  databaseNames : registry.databases.keys = opened.eraseDups
  database : ∀ name ∈ opened, ∃ config,
    base.configs.get? name = some config ∧
      registry.databases.get? name =
        some { Database.ofConfig config with tables := tablesOf models name }
  modelOpened : ∀ model ∈ models, model.database ∈ opened
  entries : registry.models.entries =
    models.flatMap (indexEntries base.options)

namespace IsLoaded

variable {base registry next : Registry} {opened : List String}
  {models : List Model}

/-- Exactly the names that were opened are those of open databases. -/
theorem get?_eq_none_iff (loaded : IsLoaded base opened models registry)
    (name : String) :
    registry.databases.get? name = none ↔ name ∉ opened := by
  rw [← OrderedMap.not_mem_keys_iff, loaded.databaseNames, List.mem_eraseDups]

theorem mem_opened (loaded : IsLoaded base opened models registry)
    {name : String} {database : Database}
    (found : registry.databases.get? name = some database) :
    name ∈ opened := by
  by_contra unknown
  rw [(loaded.get?_eq_none_iff name).mpr unknown] at found
  contradiction

theorem keys_models (loaded : IsLoaded base opened models registry) :
    registry.models.keys = allNames base.options models := by
  unfold OrderedMap.keys OrderedMap.keysOf allNames
  rw [loaded.entries, List.map_flatMap]
  apply congrArg fun names => models.flatMap names
  funext model
  exact keysOf_indexEntries base.options model

theorem nodup_allNames (loaded : IsLoaded base opened models registry) :
    (allNames base.options models).Nodup := by
  rw [← loaded.keys_models]
  exact registry.models.keysDistinct

/-- The index leads from the names of the models to the models. -/
theorem get?_models_iff (loaded : IsLoaded base opened models registry)
    (key : String) (model : Model) :
    registry.models.get? key = some model ↔
      model ∈ models ∧ key ∈ lookupNames base.options model := by
  rw [OrderedMap.get?_eq_some_iff, loaded.entries, List.mem_flatMap]
  constructor
  · rintro ⟨other, member, isEntry⟩
    obtain ⟨name, isName, equal⟩ := List.mem_map.mp isEntry
    cases equal
    exact ⟨member, isName⟩
  · rintro ⟨member, isName⟩
    exact ⟨model, member, List.mem_map.mpr ⟨key, isName, rfl⟩⟩

/-! ### Opening a database -/

/-- Opening an open database again changes nothing. -/
theorem reopen (loaded : IsLoaded base opened models registry)
    {name : String} (known : name ∈ opened) :
    IsLoaded base (opened ++ [name]) models registry := by
  refine ⟨loaded.sameOptions, loaded.sameConfigs, ?_, ?_, ?_,
    loaded.entries⟩
  · rw [eraseDups_concat, if_pos known]
    exact loaded.databaseNames
  · intro other member
    apply loaded.database
    rcases List.mem_append.mp member with old | isLast
    · exact old
    · exact List.mem_singleton.mp isLast ▸ known
  · intro model member
    exact List.mem_append_left _ (loaded.modelOpened model member)

/-- No table belongs to a database that was not opened. -/
theorem tablesOf_eq_nil (loaded : IsLoaded base opened models registry)
    {name : String} (unknown : name ∉ opened) :
    tablesOf models name = [] := by
  unfold tablesOf
  rw [List.map_eq_nil_iff, List.filter_eq_nil_iff]
  intro model member isDatabase
  exact unknown (eq_of_beq isDatabase ▸ loaded.modelOpened model member)

theorem withDatabase (loaded : IsLoaded base opened models registry)
    {name : String} {config : DatabaseConfig}
    (closed : registry.databases.get? name = none)
    (configured : registry.configs.get? name = some config) :
    IsLoaded base (opened ++ [name]) models
      (registry.withDatabase name config) := by
  have unknown : name ∉ opened := (loaded.get?_eq_none_iff name).mp closed
  rw [loaded.sameConfigs] at configured
  refine ⟨loaded.sameOptions, loaded.sameConfigs, ?_, ?_, ?_,
    loaded.entries⟩
  · have absent : name ∉ registry.databases.keys :=
      (OrderedMap.not_mem_keys_iff _ _).mpr closed
    unfold Registry.withDatabase
    rw [eraseDups_concat, if_neg unknown, OrderedMap.keys_insert,
      if_neg absent, loaded.databaseNames]
  · intro other member
    unfold Registry.withDatabase
    rw [OrderedMap.get?_insert]
    split
    · rename_i isName
      rw [isName, loaded.tablesOf_eq_nil unknown]
      exact ⟨config, configured, rfl⟩
    · rename_i isOther
      apply loaded.database
      rcases List.mem_append.mp member with old | isLast
      · exact old
      · exact absurd (List.mem_singleton.mp isLast) isOther
  · intro model member
    exact List.mem_append_left _ (loaded.modelOpened model member)

theorem openDatabase (loaded : IsLoaded base opened models registry)
    {name : String} {database : Database}
    (succeeded : registry.openDatabase name = .ok (next, database)) :
    IsLoaded base (opened ++ [name]) models next := by
  rcases (openDatabase_eq_ok_iff _ _ _ _).mp succeeded with
    ⟨found, rfl⟩ | ⟨closed, config, configured, -, rfl⟩
  · exact loaded.reopen (loaded.mem_opened found)
  · exact loaded.withDatabase closed configured

/-- A configured database can be opened. -/
theorem exists_openDatabase_eq_ok
    (loaded : IsLoaded base opened models registry) {name : String}
    {config : DatabaseConfig}
    (configured : base.configs.get? name = some config) :
    ∃ result, registry.openDatabase name = .ok result := by
  cases found : registry.databases.get? name with
  | some database =>
      exact ⟨(registry, database),
        (openDatabase_eq_ok_iff _ _ _ _).mpr (Or.inl ⟨found, rfl⟩)⟩
  | none =>
      rw [← loaded.sameConfigs] at configured
      exact ⟨(registry.withDatabase name config, .ofConfig config),
        (openDatabase_eq_ok_iff _ _ _ _).mpr
          (Or.inr ⟨found, config, configured, rfl, rfl⟩)⟩

/-! ### Adding a model -/

theorem withModel (loaded : IsLoaded base opened models registry)
    {database : Database} {model : Model}
    (found : registry.databases.get? model.database = some database)
    (free : registry.IsFree model) :
    IsLoaded base opened (models ++ [model])
      (registry.withModel database model) := by
  have known : model.database ∈ opened := loaded.mem_opened found
  refine ⟨loaded.sameOptions, loaded.sameConfigs, ?_, ?_, ?_, ?_⟩
  · have present : model.database ∈ registry.databases.keys :=
      (OrderedMap.mem_keys_iff _ _).mpr ⟨database, found⟩
    unfold Registry.withModel
    rw [OrderedMap.keys_insert, if_pos present]
    exact loaded.databaseNames
  · intro name member
    obtain ⟨config, configured, stored⟩ := loaded.database name member
    refine ⟨config, configured, ?_⟩
    rw [get?_databases_withModel, tablesOf_concat]
    by_cases isDatabase : name = model.database
    · rw [if_pos isDatabase, if_pos isDatabase.symm]
      rw [← isDatabase, stored] at found
      cases found
      rfl
    · rw [if_neg isDatabase, if_neg fun equal => isDatabase equal.symm]
      exact stored
  · intro other member
    rcases List.mem_append.mp member with old | isLast
    · exact loaded.modelOpened other old
    · exact List.mem_singleton.mp isLast ▸ known
  · unfold Registry.withModel
    rw [entries_index free, loaded.entries, loaded.sameOptions,
      List.flatMap_append, List.flatMap_singleton]

theorem loadModule (loaded : IsLoaded base opened models registry)
    {name : String} {tableModule : TableModule} {model : Option Model}
    (succeeded : registry.loadModule name tableModule = .ok (next, model)) :
    IsLoaded base opened
      (models ++ (Model.ofModule? name tableModule).toList) next := by
  rcases (loadModule_eq_ok_iff _ _ _ _ _).mp succeeded with
    ⟨noTable, rfl, -⟩ | ⟨config, defined, hasTable, defines, -⟩
  · have noModel : Model.ofModule? name tableModule = none := by
      rw [Model.ofModule?, noTable]
      rfl
    rw [noModel, Option.toList_none, List.append_nil]
    exact loaded
  · obtain ⟨rfl, free, database, found, rfl⟩ :=
      (define_eq_ok_iff _ _ _ _ _ _).mp defines
    have isModel : Model.ofModule? name tableModule =
        some (.ofConfig name config tableModule.attributes) := by
      rw [Model.ofModule?, hasTable]
      rfl
    rw [isModel]
    exact loaded.withModel found free

/-- A model can be added if its names differ from those of all others. -/
theorem isFree (loaded : IsLoaded base opened models registry) {model : Model}
    (distinct : (allNames base.options (models ++ [model])).Nodup) :
    registry.IsFree model := by
  unfold allNames at distinct
  rw [List.flatMap_append, List.flatMap_singleton] at distinct
  intro key isName
  rw [loaded.sameOptions] at isName
  apply (OrderedMap.not_mem_keys_iff _ _).mp
  rw [loaded.keys_models]
  intro taken
  exact (List.nodup_append.mp distinct).2.2 key taken key isName rfl

theorem exists_loadModule_eq_ok
    (loaded : IsLoaded base opened models registry) {name : String}
    {tableModule : TableModule} (known : name ∈ opened)
    (distinct : (allNames base.options
      (models ++ (Model.ofModule? name tableModule).toList)).Nodup) :
    ∃ result, registry.loadModule name tableModule = .ok result := by
  cases hasTable : tableModule.config with
  | none =>
      exact ⟨(registry, none), (loadModule_eq_ok_iff _ _ _ _ _).mpr
        (Or.inl ⟨hasTable, rfl, rfl⟩)⟩
  | some config =>
      rw [Model.ofModule?, hasTable] at distinct
      obtain ⟨_, -, stored⟩ := loaded.database name known
      have defines := (define_eq_ok_iff registry _ name config
        tableModule.attributes _).mpr
          ⟨rfl, loaded.isFree distinct, _, stored, rfl⟩
      exact ⟨_, (loadModule_eq_ok_iff _ _ _ _ _).mpr
        (Or.inr ⟨config, _, hasTable, defines, rfl⟩)⟩

end IsLoaded

/-! ## Groups of modules -/

/-- Load a module without giving its model. -/
def loadInto (database : String) (registry : Registry)
    (tableModule : TableModule) : Except Error Registry := do
  let (next, _) ← registry.loadModule database tableModule
  .ok next

theorem loadInto_eq_ok_iff (database : String) (registry next : Registry)
    (tableModule : TableModule) :
    loadInto database registry tableModule = .ok next ↔
      ∃ model, registry.loadModule database tableModule =
        .ok (next, model) := by
  unfold loadInto
  rw [bind_eq_ok_iff]
  constructor
  · rintro ⟨⟨middle, model⟩, loaded, equal⟩
    cases equal
    exact ⟨model, loaded⟩
  · rintro ⟨model, loaded⟩
    exact ⟨(next, model), loaded, rfl⟩

theorem loadGroup_eq_ok_iff (registry next : Registry)
    (group : DatabaseModules) :
    registry.loadGroup group = .ok next ↔
      ∃ opened database,
        registry.openDatabase group.database = .ok (opened, database) ∧
        group.modules.foldlM (loadInto group.database) opened =
          .ok next := by
  unfold loadGroup
  rw [bind_eq_ok_iff]
  constructor
  · rintro ⟨⟨opened, database⟩, opens, loads⟩
    exact ⟨opened, database, opens, loads⟩
  · rintro ⟨opened, database, opens, loads⟩
    exact ⟨(opened, database), opens, loads⟩

/-- The models that groups of modules declare. -/
def declaredModels (groups : List DatabaseModules) : List Model :=
  groups.flatMap fun group => Model.ofModules group.database group.modules

theorem declaredModels_concat (groups : List DatabaseModules)
    (last : DatabaseModules) :
    declaredModels (groups ++ [last]) = declaredModels groups ++
      Model.ofModules last.database last.modules := by
  unfold declaredModels
  rw [List.flatMap_append, List.flatMap_singleton]

namespace IsLoaded

variable {base registry next : Registry} {opened : List String}
  {models : List Model}

/-- The modules of an open database are loaded in order. -/
theorem loadInto (base : Registry) (opened : List String)
    (models : List Model) (name : String) (done : List TableModule)
    (state : Registry) (tableModule : TableModule) (following : Registry)
    (earlier : IsLoaded base opened
      (models ++ Model.ofModules name done) state)
    (succeeded : Registry.loadInto name state tableModule = .ok following) :
    IsLoaded base opened
      (models ++ Model.ofModules name (done ++ [tableModule])) following := by
  obtain ⟨model, loads⟩ := (loadInto_eq_ok_iff _ _ _ _).mp succeeded
  rw [Model.ofModules_concat, ← List.append_assoc]
  exact earlier.loadModule loads

theorem loadGroup (loaded : IsLoaded base opened models registry)
    {group : DatabaseModules}
    (succeeded : registry.loadGroup group = .ok next) :
    IsLoaded base (opened ++ [group.database])
      (models ++ Model.ofModules group.database group.modules) next := by
  obtain ⟨state, database, opens, loads⟩ :=
    (loadGroup_eq_ok_iff _ _ _).mp succeeded
  have begins := loaded.openDatabase opens
  refine foldlM_induction
    (fun done state => IsLoaded base (opened ++ [group.database])
      (models ++ Model.ofModules group.database done) state)
    (loadInto base _ models _) [] ?_ loads
  exact (List.append_nil models).symm ▸ begins

theorem exists_loadGroup_eq_ok
    (loaded : IsLoaded base opened models registry)
    {group : DatabaseModules} {config : DatabaseConfig}
    (configured : base.configs.get? group.database = some config)
    (distinct : (allNames base.options (models ++
      Model.ofModules group.database group.modules)).Nodup) :
    ∃ result, registry.loadGroup group = .ok result := by
  obtain ⟨⟨state, database⟩, opens⟩ :=
    loaded.exists_openDatabase_eq_ok configured
  have begins := loaded.openDatabase opens
  have known : group.database ∈ opened ++ [group.database] :=
    List.mem_append_right _ (List.mem_singleton_self _)
  have loads : ∃ result, group.modules.foldlM
      (Registry.loadInto group.database) state = .ok result := by
    refine exists_foldlM_eq_ok
      (fun done state => IsLoaded base (opened ++ [group.database])
        (models ++ Model.ofModules group.database done) state)
      (fun done => (allNames base.options
        (models ++ Model.ofModules group.database done)).Nodup)
      (loadInto base (opened ++ [group.database]) models group.database)
      ?_ ?_ [] ?_ distinct
    · intro done current tableModule earlier admitted
      rw [Model.ofModules_concat, ← List.append_assoc] at admitted
      obtain ⟨⟨following, model⟩, succeeded⟩ :=
        earlier.exists_loadModule_eq_ok known admitted
      exact ⟨following,
        (loadInto_eq_ok_iff _ _ _ _).mpr ⟨model, succeeded⟩⟩
    · intro front back admitted
      rw [Model.ofModules, List.filterMap_append,
        ← List.append_assoc] at admitted
      exact nodup_allNames_of_append admitted
    · exact (List.append_nil models).symm ▸ begins
  obtain ⟨result, remaining⟩ := loads
  exact ⟨result,
    (loadGroup_eq_ok_iff _ _ _).mpr ⟨state, database, opens, remaining⟩⟩

end IsLoaded
end Registry
end TerseSchema
