import TerseSchema.Proofs.Registry.Loading
import Mathlib.Data.List.Forall2

/-!
# Registries of configurations and modules

The checks of a new registry are made one after the other against what was
loaded before.  Together they ask for two things that do not depend on any
order: every database has a configuration, and all lookup names are distinct.
The index that results does not depend on the order of groups and modules
either.
-/

namespace TerseSchema

/-! ## Schemas of tables -/

/-- The schema of a table is compiled from its descriptors, or it is written
out. -/
theorem TableConfig.eq_schema_iff (config : TableConfig) (schema : Schema) :
    schema = config.schema ↔
      (∃ descriptors, config.columns = .shorthand descriptors ∧
        schema = compile config.options descriptors) ∨
      config.columns = .structured schema := by
  unfold TableConfig.schema TableColumns.resolve
  cases config.columns with
  | shorthand descriptors => simp
  | structured stated => simp [eq_comm]

/-- The model of a table has its schema, whichever way that is given. -/
theorem Model.eq_ofConfig_iff (database : String) (config : TableConfig)
    (attributes : OrderedMap Json) (model : Model) :
    model = .ofConfig database config attributes ↔
      ∃ schema,
        ((∃ descriptors, config.columns = .shorthand descriptors ∧
            schema = compile config.options descriptors) ∨
          config.columns = .structured schema) ∧
        model = ⟨database, config.table, schema, attributes⟩ := by
  simp only [← TableConfig.eq_schema_iff, exists_eq_left]
  rfl

namespace Registry

/-! ## Configurations -/

/-- The last configuration of a name. -/
def lastConfig? (configs : List DatabaseConfig) (name : String) :
    Option DatabaseConfig :=
  configs.reverse.find? fun config => config.name == name

/-- The registry that stores configurations and nothing else. -/
def configured (options : RegistryOptions) (configs : List DatabaseConfig) :
    Registry :=
  configs.foldl configure (new options)

/-- Configurations change nothing but the configurations of a registry, and a
later one replaces an earlier one of its name. -/
theorem foldl_configure (registry : Registry)
    (configs : List DatabaseConfig) :
    ∃ stored : OrderedMap DatabaseConfig,
      configs.foldl configure registry = { registry with configs := stored } ∧
      ∀ name, stored.get? name =
        (lastConfig? configs name).or (registry.configs.get? name) := by
  induction configs generalizing registry with
  | nil => exact ⟨registry.configs, rfl, fun name => rfl⟩
  | cons config rest inductionHypothesis =>
      obtain ⟨stored, equal, lookup⟩ :=
        inductionHypothesis (registry.configure config)
      refine ⟨stored, equal, fun name => ?_⟩
      rw [lookup, lastConfig?, lastConfig?, List.reverse_cons,
        List.find?_append, Option.or_assoc]
      apply congrArg
      unfold configure
      rw [OrderedMap.get?_insert]
      by_cases isName : config.name = name
      · simp [isName]
      · rw [if_neg fun equal => isName equal.symm]
        simp [isName]

theorem get?_configs_configured (options : RegistryOptions)
    (configs : List DatabaseConfig) (name : String) :
    (configured options configs).configs.get? name =
      lastConfig? configs name := by
  obtain ⟨stored, equal, lookup⟩ := foldl_configure (new options) configs
  rw [configured, equal, lookup]
  exact Option.or_none

theorem isLoaded_configured (options : RegistryOptions)
    (configs : List DatabaseConfig) :
    (configured options configs).options = options ∧
      IsLoaded (configured options configs) [] []
        (configured options configs) := by
  obtain ⟨stored, equal, -⟩ := foldl_configure (new options) configs
  rw [configured, equal]
  refine ⟨rfl, rfl, rfl, rfl, ?_, ?_, rfl⟩
  · exact fun name member => absurd member List.not_mem_nil
  · exact fun model member => absurd member List.not_mem_nil

/-- A name has a last configuration exactly if it has any. -/
theorem exists_lastConfig?_iff (configs : List DatabaseConfig)
    (name : String) :
    (∃ config, lastConfig? configs name = some config) ↔
      ∃ config ∈ configs, config.name = name := by
  rw [← Option.isSome_iff_exists, lastConfig?, List.find?_isSome]
  simp only [List.mem_reverse, beq_iff_eq]

theorem name_of_lastConfig? {configs : List DatabaseConfig} {name : String}
    {config : DatabaseConfig}
    (found : lastConfig? configs name = some config) :
    config.name = name := by
  unfold lastConfig? at found
  have isName := List.find?_some found
  exact eq_of_beq isName

/-! ## Success -/

/-- Loading a further group extends the description of a registry. -/
theorem IsLoaded.concat {base : Registry} (done : List DatabaseModules)
    (state : Registry) (group : DatabaseModules) (next : Registry)
    (earlier : IsLoaded base (done.map DatabaseModules.database)
      (declaredModels done) state)
    (loads : state.loadGroup group = .ok next) :
    IsLoaded base ((done ++ [group]).map DatabaseModules.database)
      (declaredModels (done ++ [group])) next := by
  rw [List.map_append, declaredModels_concat]
  exact earlier.loadGroup loads

/-- A registry that was made is described by its groups. -/
theorem isLoaded_of_init_eq_ok {options : RegistryOptions}
    {configs : List DatabaseConfig} {groups : List DatabaseModules}
    {registry : Registry}
    (succeeded : init options configs groups = .ok registry) :
    IsLoaded (configured options configs)
      (groups.map DatabaseModules.database) (declaredModels groups)
      registry := by
  exact foldlM_induction
    (fun done state => IsLoaded (configured options configs)
      (done.map DatabaseModules.database) (declaredModels done) state)
    IsLoaded.concat [] (isLoaded_configured options configs).2 succeeded

/-- A registry is made exactly if all databases are configured and all lookup
names differ. -/
theorem exists_init_eq_ok_iff (options : RegistryOptions)
    (configs : List DatabaseConfig) (groups : List DatabaseModules) :
    (∃ registry, init options configs groups = .ok registry) ↔
      (∀ group ∈ groups, ∃ config ∈ configs,
        config.name = group.database) ∧
      (allNames options (declaredModels groups)).Nodup := by
  obtain ⟨sameOptions, begins⟩ := isLoaded_configured options configs
  have configuredIff (name : String) :
      (∃ config ∈ configs, config.name = name) ↔
        ∃ config, (configured options configs).configs.get? name =
          some config := by
    rw [← exists_lastConfig?_iff, get?_configs_configured]
  simp only [configuredIff]
  constructor
  · rintro ⟨registry, succeeded⟩
    have loaded := isLoaded_of_init_eq_ok succeeded
    constructor
    · intro group member
      obtain ⟨config, found, -⟩ :=
        loaded.database group.database (List.mem_map_of_mem member)
      exact ⟨config, found⟩
    · have distinct := loaded.nodup_allNames
      rwa [sameOptions] at distinct
  · intro admitted
    refine exists_foldlM_eq_ok
      (fun done state => IsLoaded (configured options configs)
        (done.map DatabaseModules.database) (declaredModels done) state)
      (fun done =>
        (∀ group ∈ done, ∃ config,
          (configured options configs).configs.get? group.database =
            some config) ∧
        (allNames options (declaredModels done)).Nodup)
      IsLoaded.concat ?_ ?_ [] begins admitted
    · rintro done state group earlier ⟨isConfigured, distinct⟩
      obtain ⟨config, found⟩ := isConfigured group
        (List.mem_append_right _ (List.mem_singleton_self _))
      rw [declaredModels_concat, ← sameOptions] at distinct
      exact earlier.exists_loadGroup_eq_ok found distinct
    · rintro front back ⟨isConfigured, distinct⟩
      refine ⟨fun group member =>
        isConfigured group (List.mem_append_left _ member), ?_⟩
      rw [declaredModels, List.flatMap_append] at distinct
      exact nodup_allNames_of_append distinct

/-! ## Models and tables -/

theorem mem_declaredModels_iff (groups : List DatabaseModules)
    (model : Model) :
    model ∈ declaredModels groups ↔
      ∃ group ∈ groups, ∃ tableModule ∈ group.modules, ∃ config,
        tableModule.config = some config ∧
        model = .ofConfig group.database config tableModule.attributes := by
  simp only [declaredModels, Model.ofModules, Model.ofModule?,
    List.mem_flatMap, List.mem_filterMap, Option.map_eq_some_iff,
    @eq_comm _ model]

/-- The tables that groups of modules list for a database, in order. -/
def declaredTables (groups : List DatabaseModules) (name : String) :
    List String :=
  (groups.filter fun group => group.database == name).flatMap fun group =>
    group.modules.filterMap fun tableModule =>
      tableModule.config.map TableConfig.table

theorem tablesOf_ofModules (database : String) (modules : List TableModule)
    (name : String) :
    tablesOf (Model.ofModules database modules) name =
      if database = name then
        modules.filterMap fun tableModule =>
          tableModule.config.map TableConfig.table
      else [] := by
  have onDatabase : ∀ model ∈ Model.ofModules database modules,
      model.database = database := by
    intro model member
    obtain ⟨tableModule, -, isModel⟩ := List.mem_filterMap.mp member
    obtain ⟨config, -, rfl⟩ := Option.map_eq_some_iff.mp isModel
    rfl
  unfold tablesOf
  split
  · rename_i isName
    rw [List.filter_eq_self.mpr fun model member =>
      beq_iff_eq.mpr ((onDatabase model member).trans isName)]
    rw [Model.ofModules, List.map_filterMap]
    apply congrArg fun table => modules.filterMap table
    funext tableModule
    rw [Model.ofModule?, Option.map_map]
    rfl
  · rename_i isOther
    rw [List.map_eq_nil_iff, List.filter_eq_nil_iff]
    intro model member isName
    exact isOther ((onDatabase model member).symm.trans (eq_of_beq isName))

theorem tablesOf_declaredModels (groups : List DatabaseModules)
    (name : String) :
    tablesOf (declaredModels groups) name = declaredTables groups name := by
  induction groups with
  | nil => rfl
  | cons group rest inductionHypothesis =>
      have front : declaredModels (group :: rest) =
          Model.ofModules group.database group.modules ++
            declaredModels rest := rfl
      rw [front, tablesOf_append, tablesOf_ofModules, inductionHypothesis]
      unfold declaredTables
      rw [List.filter_cons]
      by_cases isName : group.database = name
      · rw [if_pos isName, if_pos (beq_iff_eq.mpr isName), List.flatMap_cons]
      · rw [if_neg isName, if_neg fun equal => isName (eq_of_beq equal),
          List.nil_append]

/-! ## Order -/

/-- The groups in another order, each with its modules in another order. -/
def Rearranged (groups others : List DatabaseModules) : Prop :=
  ∃ middle, groups.Perm middle ∧
    List.Forall₂ (fun group other => group.database = other.database ∧
      group.modules.Perm other.modules) middle others

namespace Rearranged

variable {groups others : List DatabaseModules}

theorem databases (rearranged : Rearranged groups others) :
    (groups.map DatabaseModules.database).Perm
      (others.map DatabaseModules.database) := by
  obtain ⟨middle, reordered, related⟩ := rearranged
  apply (reordered.map _).trans
  clear reordered
  induction related with
  | nil => exact .refl _
  | cons sameGroup related inductionHypothesis =>
      rw [List.map_cons, List.map_cons, sameGroup.1]
      exact inductionHypothesis.cons _

theorem declaredModels (rearranged : Rearranged groups others) :
    (declaredModels groups).Perm (declaredModels others) := by
  obtain ⟨middle, reordered, related⟩ := rearranged
  apply (reordered.flatMap_right _).trans
  clear reordered
  induction related with
  | nil => exact .refl _
  | cons sameGroup related inductionHypothesis =>
      obtain ⟨sameDatabase, reorderedModules⟩ := sameGroup
      rw [List.flatMap_cons, sameDatabase]
      exact (reorderedModules.filterMap _).append inductionHypothesis

end Rearranged

namespace IsLoaded

variable {base registry other : Registry} {opened reopened : List String}
  {models others : List Model}

/-- The index does not depend on the order of the models. -/
theorem model_eq_of_perm (loaded : IsLoaded base opened models registry)
    (reloaded : IsLoaded base reopened others other)
    (reordered : models.Perm others) (key : String) :
    other.model key = registry.model key := by
  have sameLookup : other.models.get? key = registry.models.get? key := by
    apply Option.ext
    intro model
    rw [reloaded.get?_models_iff, loaded.get?_models_iff,
      reordered.mem_iff]
  unfold Registry.model
  rw [sameLookup]

theorem databaseNames_perm (loaded : IsLoaded base opened models registry)
    (reloaded : IsLoaded base reopened others other)
    (reordered : opened.Perm reopened) :
    other.databases.keys.Perm registry.databases.keys := by
  have sameNames (name : String) :
      name ∈ other.databases.keys ↔ name ∈ registry.databases.keys := by
    rw [reloaded.databaseNames, loaded.databaseNames, List.mem_eraseDups,
      List.mem_eraseDups]
    exact reordered.mem_iff.symm
  exact (List.perm_ext_iff_of_nodup other.databases.keysDistinct
    registry.databases.keysDistinct).mpr sameNames

/-- A database has the same settings and the same tables in some order. -/
theorem database_of_perm (loaded : IsLoaded base opened models registry)
    (reloaded : IsLoaded base reopened others other)
    (sameNames : opened.Perm reopened) (reordered : models.Perm others)
    {name : String} {database : Database}
    (found : registry.databases.get? name = some database) :
    ∃ tables, other.databases.get? name =
      some { database with tables := tables } ∧
        tables.Perm database.tables := by
  have known : name ∈ opened := loaded.mem_opened found
  obtain ⟨config, configured, stored⟩ := loaded.database name known
  obtain ⟨sameConfig, alsoConfigured, alsoStored⟩ :=
    reloaded.database name (sameNames.mem_iff.mp known)
  rw [configured] at alsoConfigured
  cases alsoConfigured
  rw [stored] at found
  cases found
  exact ⟨tablesOf others name, alsoStored,
    ((reordered.filter _).map _).symm⟩

end IsLoaded

/-! ## The registry of configurations and groups -/

section
variable {options : RegistryOptions} {configs : List DatabaseConfig}
  {groups : List DatabaseModules} {registry : Registry}
  (succeeded : init options configs groups = .ok registry)
include succeeded

/-- A key leads to the model of the module that it comes from. -/
theorem model_eq_ok_iff_of_init (key : String) (model : Model) :
    registry.model key = .ok model ↔
      ∃ group ∈ groups, ∃ tableModule ∈ group.modules, ∃ config schema,
        tableModule.config = some config ∧
        ((∃ descriptors, config.columns = .shorthand descriptors ∧
            schema = compile config.options descriptors) ∨
          config.columns = .structured schema) ∧
        model = ⟨group.database, config.table, schema,
          tableModule.attributes⟩ ∧
        (key = Model.qualify group.database config.table ∨
          (options.keepBareNames = true ∧ key = config.table)) := by
  have loaded := isLoaded_of_init_eq_ok succeeded
  rw [model_eq_ok_iff, loaded.get?_models_iff,
    (isLoaded_configured options configs).1, mem_declaredModels_iff,
    mem_lookupNames_iff]
  simp only [Model.eq_ofConfig_iff]
  constructor
  · rintro ⟨⟨group, isGroup, tableModule, isModule, config, hasTable, schema,
      resolved, rfl⟩, isName⟩
    exact ⟨group, isGroup, tableModule, isModule, config, schema, hasTable,
      resolved, rfl, isName⟩
  · rintro ⟨group, isGroup, tableModule, isModule, config, schema, hasTable,
      resolved, rfl, isName⟩
    exact ⟨⟨group, isGroup, tableModule, isModule, config, hasTable, schema,
      resolved, rfl⟩, isName⟩

/-- The database of a group has its last configuration, and lists its
tables. -/
theorem database?_of_init {group : DatabaseModules}
    (member : group ∈ groups) :
    ∃ config, lastConfig? configs group.database = some config ∧
      registry.database? group.database =
        some ⟨group.database, config.url, config.settings,
          declaredTables groups group.database⟩ := by
  have loaded := isLoaded_of_init_eq_ok succeeded
  obtain ⟨config, found, stored⟩ :=
    loaded.database group.database (List.mem_map_of_mem member)
  rw [get?_configs_configured] at found
  refine ⟨config, found, ?_⟩
  rw [tablesOf_declaredModels] at stored
  rw [database?, stored, Database.ofConfig, name_of_lastConfig? found]

end

/-- Whether a registry is made does not depend on the order. -/
theorem Rearranged.exists_init_iff {groups others : List DatabaseModules}
    (rearranged : Rearranged groups others) (options : RegistryOptions)
    (configs : List DatabaseConfig) :
    (∃ other, init options configs others = .ok other) ↔
      ∃ registry, init options configs groups = .ok registry := by
  have sameDatabases (name : String) :
      name ∈ others.map DatabaseModules.database ↔
        name ∈ groups.map DatabaseModules.database :=
    rearranged.databases.symm.mem_iff
  rw [exists_init_eq_ok_iff, exists_init_eq_ok_iff]
  apply and_congr
  · have everyName (these : List DatabaseModules) :
        (∀ group ∈ these, ∃ config ∈ configs,
          config.name = group.database) ↔
        ∀ name ∈ these.map DatabaseModules.database,
          ∃ config ∈ configs, config.name = name := by
      rw [List.forall_mem_map]
    rw [everyName, everyName]
    apply forall_congr'
    intro name
    exact imp_congr_left (sameDatabases name)
  · apply List.Perm.nodup_iff
    exact (rearranged.declaredModels.flatMap_right _).symm

/-- A registry is made from configurations and groups of modules exactly if
every group has a configured database and all lookup names are distinct.  Its
index then has exactly these names, and leads from each to the model of the
module that it comes from, with the schema that its descriptors compile to or
the one that is written out.  Its databases are those of the groups in order of
first appearance, each with its last configuration and its tables in order.
Neither success nor the models depend on the order of groups and modules. -/
theorem init_exact (options : RegistryOptions) (configs : List DatabaseConfig)
    (groups : List DatabaseModules) :
    ((∃ registry, init options configs groups = .ok registry) ↔
      (∀ group ∈ groups, ∃ config ∈ configs,
        config.name = group.database) ∧
      (allNames options (declaredModels groups)).Nodup) ∧
    (∀ registry, init options configs groups = .ok registry →
      registry.models.keys = allNames options (declaredModels groups) ∧
      (∀ key model, registry.model key = .ok model ↔
        ∃ group ∈ groups, ∃ tableModule ∈ group.modules, ∃ config schema,
          tableModule.config = some config ∧
          ((∃ descriptors, config.columns = .shorthand descriptors ∧
              schema = compile config.options descriptors) ∨
            config.columns = .structured schema) ∧
          model = ⟨group.database, config.table, schema,
            tableModule.attributes⟩ ∧
          (key = Model.qualify group.database config.table ∨
            (options.keepBareNames = true ∧ key = config.table))) ∧
      registry.databases.keys =
        (groups.map DatabaseModules.database).eraseDups ∧
      ∀ group ∈ groups, ∃ config,
        lastConfig? configs group.database = some config ∧
        registry.database? group.database =
          some ⟨group.database, config.url, config.settings,
            declaredTables groups group.database⟩) ∧
    ∀ others, Rearranged groups others →
      ((∃ other, init options configs others = .ok other) ↔
        ∃ registry, init options configs groups = .ok registry) ∧
      ∀ registry other, init options configs groups = .ok registry →
        init options configs others = .ok other →
        (∀ key, other.model key = registry.model key) ∧
        other.databases.keys.Perm registry.databases.keys ∧
        ∀ name database, registry.database? name = some database →
          ∃ tables,
            other.database? name = some { database with tables := tables } ∧
            tables.Perm database.tables := by
  have sameOptions := (isLoaded_configured options configs).1
  refine ⟨exists_init_eq_ok_iff options configs groups, ?_, ?_⟩
  · intro registry succeeded
    have loaded := isLoaded_of_init_eq_ok succeeded
    refine ⟨?_, ?_, loaded.databaseNames, ?_⟩
    · have keys := loaded.keys_models
      rwa [sameOptions] at keys
    · exact model_eq_ok_iff_of_init succeeded
    · exact fun group member => database?_of_init succeeded member
  · intro others rearranged
    refine ⟨rearranged.exists_init_iff options configs, ?_⟩
    intro registry other succeeded alsoSucceeded
    have loaded := isLoaded_of_init_eq_ok succeeded
    have reloaded := isLoaded_of_init_eq_ok alsoSucceeded
    refine ⟨loaded.model_eq_of_perm reloaded rearranged.declaredModels,
      loaded.databaseNames_perm reloaded rearranged.databases, ?_⟩
    intro name database found
    exact loaded.database_of_perm reloaded rearranged.databases
      rearranged.declaredModels found

end Registry
end TerseSchema
