import TerseSchema.Proofs.Registry.InPlace

/-!
# Growth of a registry

A registry only grows.  What a name leads to stays the same model, an open
database keeps its place and its settings, and its tables stay in front of any
later ones.  A configuration that is replaced reaches no database that is open,
opening a database again changes nothing, and a call that fails leaves
everything as it was.

Growth is reflexive and transitive, and each step of a registry is an instance
of it, so it carries over to every run of calls.
-/

namespace TerseSchema

/-- A database keeps its name, address and settings, and its tables are at the
front of the later ones. -/
structure Database.Grows (earlier later : Database) : Prop where
  name : later.name = earlier.name
  url : later.url = earlier.url
  settings : later.settings = earlier.settings
  tables : earlier.tables <+: later.tables

namespace Database.Grows

theorem refl (database : Database) : database.Grows database :=
  ⟨rfl, rfl, rfl, List.prefix_rfl⟩

theorem trans {first second third : Database} (early : first.Grows second)
    (late : second.Grows third) : first.Grows third where
  name := late.name.trans early.name
  url := late.url.trans early.url
  settings := late.settings.trans early.settings
  tables := early.tables.trans late.tables

theorem addTable (database : Database) (table : String) :
    database.Grows (database.addTable table) :=
  ⟨rfl, rfl, rfl, List.prefix_append _ _⟩

end Database.Grows

namespace Registry

/-- A name that leads to a model leads to the same model later, and the open
databases are at the front of the later ones, each of them grown. -/
structure Grows (earlier later : Registry) : Prop where
  models : ∀ name model, earlier.model name = .ok model →
    later.model name = .ok model
  databaseNames : earlier.databases.keys <+: later.databases.keys
  databases : ∀ name database, earlier.database? name = some database →
    ∃ grown, later.database? name = some grown ∧ database.Grows grown

namespace Grows

theorem refl (registry : Registry) : registry.Grows registry where
  models _ _ found := found
  databaseNames := List.prefix_rfl
  databases _ database opened := ⟨database, opened, .refl database⟩

theorem trans {first second third : Registry} (early : first.Grows second)
    (late : second.Grows third) : first.Grows third where
  models name model found := late.models name model (early.models _ _ found)
  databaseNames := early.databaseNames.trans late.databaseNames
  databases name database opened := by
    obtain ⟨grown, grownOpened, growth⟩ := early.databases name database opened
    obtain ⟨last, lastOpened, further⟩ := late.databases name grown grownOpened
    exact ⟨last, lastOpened, growth.trans further⟩

/-! ## One step -/

variable {registry : Registry}

/-- No open database looks at its configuration again. -/
theorem configure (config : DatabaseConfig) :
    registry.Grows (registry.configure config) where
  models _ _ found := found
  databaseNames := List.prefix_rfl
  databases _ database opened := ⟨database, opened, .refl database⟩

/-- A database that is opened comes last, and under a name that no open one
has. -/
theorem withDatabase {name : String} (config : DatabaseConfig)
    (closed : registry.databases.get? name = none) :
    registry.Grows (registry.withDatabase name config) where
  models _ _ found := found
  databaseNames := by
    have absent : name ∉ registry.databases.keys :=
      (OrderedMap.not_mem_keys_iff _ _).mpr closed
    unfold Registry.withDatabase
    rw [OrderedMap.keys_insert, if_neg absent]
    exact List.prefix_append _ _
  databases other database opened := by
    have differs : other ≠ name := by
      rintro rfl
      rw [database?, closed] at opened
      contradiction
    refine ⟨database, ?_, .refl database⟩
    unfold database? Registry.withDatabase
    rw [OrderedMap.get?_insert, if_neg differs]
    exact opened

/-- A model under free names replaces none, and its database keeps its place
and gets a table at the end. -/
theorem withModel {database : Database} {model : Model}
    (opened : registry.databases.get? model.database = some database)
    (free : registry.IsFree model) :
    registry.Grows (registry.withModel database model) where
  models name other found := by
    rw [model_eq_ok_iff] at found ⊢
    exact get?_withModel_of_stored free found
  databaseNames :=
    (addsTable_withModel opened free).sameNames ▸ List.prefix_rfl
  databases name other found := by
    unfold database? at found ⊢
    rw [get?_databases_withModel]
    split
    · rename_i isDatabase
      rw [isDatabase, opened] at found
      obtain rfl := Option.some.inj found
      exact ⟨_, rfl, .addTable database model.table⟩
    · exact ⟨other, found, .refl other⟩

theorem of_step {next : Registry} (step : Step registry next) :
    registry.Grows next := by
  cases step with
  | stay => exact refl registry
  | configure config => exact configure config
  | openDatabase name config closed configured =>
      exact withDatabase config closed
  | define database model opened free => exact withModel opened free

end Grows

/-! ## Runs -/

/-- Whatever calls follow, a registry only grows.  This includes calls that
fail: the registry is the one that the calls leave in place, each of which goes
on with what the one before has written. -/
theorem grows_run (registry : Registry) (calls : List Call) :
    registry.Grows (registry.run calls) ∧
      InPlace.run registry calls = registry.run calls := by
  refine ⟨?_, InPlace.run_eq registry calls⟩
  exact run_induction registry.Grows
    (fun _ _ grown step => grown.trans (.of_step step))
    (.refl registry) calls

end Registry
end TerseSchema
