import TerseSchema.Proofs.Registry.Consistency

/-!
# Tables that are refused as duplicates

A table is refused as a duplicate if its qualified name is taken.  This name is
one text, and nothing in it tells which dot ends the name of the database, so a
table can be in the way of one on another database.  Two different tables have
the same qualified name exactly if the name of one database is the name of the
other one with a dot and a part behind it, and the table of the shorter one has
this part and a dot in front.

Among databases none of which is named like another one with a part behind it, a
table is refused exactly if its own database lists it.
-/

namespace TerseSchema

namespace Model

theorem toList_qualify (database table : String) :
    (qualify database table).toList = database.toList ++ '.' :: table.toList := by
  simp [qualify]

/-- It does not matter at which dot a name is taken apart. -/
theorem qualify_assoc (database part table : String) :
    qualify (qualify database part) table =
      qualify database (qualify part table) := by
  simp only [qualify, String.append_assoc]

/-- Whether two tables share a qualified name in which their databases end at
different dots. -/
def Overlaps (database table other otherTable : String) : Prop :=
  ∃ part,
    (other = qualify database part ∧ table = qualify part otherTable) ∨
    (database = qualify other part ∧ otherTable = qualify part table)

/-- Overlapping tables belong to different databases. -/
theorem Overlaps.database_ne {database table other otherTable : String}
    (overlaps : Overlaps database table other otherTable) :
    other ≠ database := by
  have longer (name part : String) : qualify name part ≠ name := by
    intro same
    have characters := congrArg String.toList same
    simp [toList_qualify] at characters
  obtain ⟨part, ⟨rfl, -⟩ | ⟨rfl, -⟩⟩ := overlaps
  · exact longer _ _
  · exact (longer _ _).symm

/-- If one database name is the start of another one, the names are the same or
the longer one goes on with a dot. -/
theorem eq_or_exists_part {database table other otherTable : String}
    {extension : List Char}
    (extended : other.toList = database.toList ++ extension)
    (remaining : '.' :: table.toList = extension ++ '.' :: otherTable.toList) :
    (database = other ∧ table = otherTable) ∨
      ∃ part, other = qualify database part ∧
        table = qualify part otherTable := by
  rcases List.cons_eq_append_iff.mp remaining with
    ⟨rfl, same⟩ | ⟨part, rfl, split⟩
  · rw [List.append_nil] at extended
    exact Or.inl ⟨(String.toList_inj.mp extended).symm,
      (String.toList_inj.mp (List.cons.inj same).2).symm⟩
  · refine Or.inr ⟨String.ofList part, ?_, ?_⟩
    · apply String.toList_inj.mp
      rw [extended, toList_qualify, String.toList_ofList]
    · apply String.toList_inj.mp
      rw [split, toList_qualify, String.toList_ofList]

/-- Two tables have the same qualified name exactly if they are the same table
of the same database or their names overlap. -/
theorem qualify_eq_qualify_iff (database table other otherTable : String) :
    qualify database table = qualify other otherTable ↔
      (database = other ∧ table = otherTable) ∨
        Overlaps database table other otherTable := by
  constructor
  · intro same
    have characters := congrArg String.toList same
    rw [toList_qualify, toList_qualify] at characters
    -- Both database names start the same text, so one starts the other.
    rcases List.append_eq_append_iff.mp characters with
      ⟨_, extended, remaining⟩ | ⟨_, extended, remaining⟩
    · rcases eq_or_exists_part extended remaining with equal | ⟨part, longer⟩
      · exact Or.inl equal
      · exact Or.inr ⟨part, Or.inl longer⟩
    · rcases eq_or_exists_part extended remaining with
        ⟨rfl, rfl⟩ | ⟨part, longer⟩
      · exact Or.inl ⟨rfl, rfl⟩
      · exact Or.inr ⟨part, Or.inr longer⟩
  · rintro (⟨rfl, rfl⟩ | ⟨part, ⟨rfl, rfl⟩ | ⟨rfl, rfl⟩⟩)
    · rfl
    · exact (qualify_assoc _ _ _).symm
    · exact qualify_assoc _ _ _

end Model

namespace Registry

/-- Whether a database is open and lists a table. -/
def Lists (registry : Registry) (name table : String) : Prop :=
  ∃ database, registry.database? name = some database ∧
    table ∈ database.tables

/-- Whether another open database lists a table that overlaps with a given
one. -/
def ListsOverlapping (registry : Registry) (name table : String) : Prop :=
  ∃ other otherTable, other ≠ name ∧ registry.Lists other otherTable ∧
    Model.Overlaps name table other otherTable

/-- An overlapping table is one of another database with the same qualified
name. -/
theorem listsOverlapping_iff (registry : Registry) (name table : String) :
    registry.ListsOverlapping name table ↔
      ∃ other otherTable, other ≠ name ∧ registry.Lists other otherTable ∧
        Model.qualify other otherTable = Model.qualify name table := by
  unfold ListsOverlapping
  constructor
  · rintro ⟨other, otherTable, differs, listed, overlaps⟩
    exact ⟨other, otherTable, differs, listed,
      ((Model.qualify_eq_qualify_iff _ _ _ _).mpr (Or.inr overlaps)).symm⟩
  · rintro ⟨other, otherTable, differs, listed, same⟩
    rcases (Model.qualify_eq_qualify_iff _ _ _ _).mp same.symm with
      ⟨equal, -⟩ | overlaps
    · exact absurd equal.symm differs
    · exact ⟨other, otherTable, differs, listed, overlaps⟩

/-- Whether no open database is named like a given one with a dot and a part
behind it, or the other way round. -/
def StandsApart (registry : Registry) (name : String) : Prop :=
  ∀ other database, registry.database? other = some database →
    ∀ part, other ≠ Model.qualify name part ∧ name ≠ Model.qualify other part

section

variable {registry : Registry} {name : String} {database : Database}
  (opened : registry.databases.get? name = some database)
include opened

theorem define_eq_duplicateTable_iff (config : TableConfig)
    (attributes : OrderedMap Json) (text : String) :
    registry.define name config attributes = .error (.duplicateTable text) ↔
      registry.models.contains (Model.qualify name config.table) = true ∧
        text = Model.qualify name config.table := by
  unfold define
  rw [opened]
  dsimp only
  split
  · rename_i taken
    simp [taken, eq_comm]
  · rename_i qualifiedFree
    simp only [qualifiedFree, Bool.false_eq_true, false_and, iff_false]
    split <;> simp

/-- If no bare names are kept, a definition on an open database fails for no
other reason. -/
theorem exists_define_eq_ok_iff
    (qualifiedOnly : registry.options.keepBareNames = false)
    (config : TableConfig) (attributes : OrderedMap Json) :
    (∃ next model,
      registry.define name config attributes = .ok (next, model)) ↔
      registry.models.contains (Model.qualify name config.table) = false := by
  simp only [define_eq_ok_iff, isFree_iff, qualifiedOnly]
  constructor
  · rintro ⟨_, _, rfl, ⟨qualifiedFree, -⟩, -⟩
    exact qualifiedFree
  · intro qualifiedFree
    exact ⟨_, _, rfl, ⟨qualifiedFree, rfl⟩, database, opened, rfl⟩

end

/-- If no bare names are kept, the index has the qualified names of the listed
tables and no other keys. -/
theorem IsConsistent.contains_iff {registry : Registry}
    (consistent : IsConsistent registry)
    (qualifiedOnly : registry.options.keepBareNames = false) (key : String) :
    registry.models.contains key = true ↔
      ∃ name table, registry.Lists name table ∧
        key = Model.qualify name table := by
  have onlyName (model : Model) :
      key ∈ lookupNames registry.options model ↔
        key = model.qualifiedName := by
    simp [mem_lookupNames_iff, qualifiedOnly]
  rw [OrderedMap.contains, Option.isSome_iff_exists]
  constructor
  · rintro ⟨model, stored⟩
    obtain ⟨isName, listed⟩ := consistent.keyOwned stored
    exact ⟨model.database, model.table, listed, (onlyName model).mp isName⟩
  · rintro ⟨_, _, ⟨database, opened, member⟩, rfl⟩
    obtain ⟨model, rfl, rfl, indexed⟩ :=
      consistent.tableIndexed opened member
    exact ⟨model, indexed _ ((onlyName model).mpr rfl)⟩

/-- The qualified name of a table is taken exactly if its own database lists it
or another database lists a table that overlaps with it. -/
theorem IsConsistent.contains_qualify_iff {registry : Registry}
    (consistent : IsConsistent registry)
    (qualifiedOnly : registry.options.keepBareNames = false)
    (name table : String) :
    registry.models.contains (Model.qualify name table) = true ↔
      registry.Lists name table ∨ registry.ListsOverlapping name table := by
  rw [consistent.contains_iff qualifiedOnly]
  constructor
  · rintro ⟨other, otherTable, listed, same⟩
    rcases (Model.qualify_eq_qualify_iff _ _ _ _).mp same with
      ⟨rfl, rfl⟩ | overlaps
    · exact Or.inl listed
    · exact Or.inr
        ⟨other, otherTable, overlaps.database_ne, listed, overlaps⟩
  · rintro (listed | ⟨other, otherTable, -, listed, overlaps⟩)
    · exact ⟨name, table, listed, rfl⟩
    · exact ⟨other, otherTable, listed,
        (Model.qualify_eq_qualify_iff _ _ _ _).mpr (Or.inr overlaps)⟩

/-- No listed table overlaps with one of a database that stands apart. -/
theorem StandsApart.not_listsOverlapping {registry : Registry} {name : String}
    (apart : registry.StandsApart name) (table : String) :
    ¬registry.ListsOverlapping name table := by
  rintro ⟨other, _, -, ⟨database, opened, -⟩, part, ⟨longer, -⟩ | ⟨shorter, -⟩⟩
  · exact (apart other database opened part).1 longer
  · exact (apart other database opened part).2 shorter

/-- If no bare names are kept, an open database refuses a table as a duplicate
exactly if it lists the table already or another database lists one with the
same qualified name.  The error shows this name.  To have the same qualified
name is to overlap.  Any other table is defined.  A database that stands apart
from the open ones refuses just the tables that it lists itself. -/
theorem define_refuses_listed_or_overlapping {options : RegistryOptions}
    (qualifiedOnly : options.keepBareNames = false) (calls : List Call)
    {name : String} {database : Database}
    (opened : (reached options calls).database? name = some database)
    (config : TableConfig) (attributes : OrderedMap Json) :
    (∀ text,
      (reached options calls).define name config attributes =
          .error (.duplicateTable text) ↔
        (config.table ∈ database.tables ∨
          (reached options calls).ListsOverlapping name config.table) ∧
        text = Model.qualify name config.table) ∧
    ((reached options calls).ListsOverlapping name config.table ↔
      ∃ other otherTable, other ≠ name ∧
        (reached options calls).Lists other otherTable ∧
        Model.qualify other otherTable = Model.qualify name config.table) ∧
    ((∃ text, (reached options calls).define name config attributes =
        .error (.duplicateTable text)) ↔
      config.table ∈ database.tables ∨ ∃ other otherTable, other ≠ name ∧
        (reached options calls).Lists other otherTable ∧
        Model.qualify other otherTable = Model.qualify name config.table) ∧
    ((∃ next model,
      (reached options calls).define name config attributes =
        .ok (next, model)) ↔
      ¬∃ text, (reached options calls).define name config attributes =
        .error (.duplicateTable text)) ∧
    ((reached options calls).StandsApart name →
      ((∃ text, (reached options calls).define name config attributes =
        .error (.duplicateTable text)) ↔
      config.table ∈ database.tables)) := by
  have noBareNames :
      (reached options calls).options.keepBareNames = false := by
    rw [options_reached, qualifiedOnly]
  have own : (reached options calls).Lists name config.table ↔
      config.table ∈ database.tables := by
    simp [Lists, opened]
  have taken := (isConsistent_reached options calls).contains_qualify_iff
    noBareNames name config.table
  rw [own] at taken
  have refused := define_eq_duplicateTable_iff opened config attributes
  have sameName := listsOverlapping_iff (reached options calls) name
    config.table
  refine ⟨?_, sameName, ?_, ?_, ?_⟩
  · intro text
    rw [refused, taken]
  · rw [← sameName]
    simp only [refused, taken, exists_and_left, exists_eq, and_true]
  · rw [exists_define_eq_ok_iff opened noBareNames]
    simp [refused]
  · intro apart
    have alone := apart.not_listsOverlapping config.table
    simp [refused, taken, alone]

/-- Calls that open three databases, two of which have related names, and define
a table on the first one. -/
def dottedCalls : List Call :=
  [.configure ⟨"a", "", .empty⟩, .configure ⟨"a.b", "", .empty⟩,
    .configure ⟨"b", "", .empty⟩, .openDatabase "a", .openDatabase "a.b",
    .openDatabase "b", .define "a" (.shorthand "b.c" [] .standard) .empty]

/-- A table with a dot in its name is in the way of one on a database with a dot
in its name, and not of one on a database that stands apart. -/
theorem define_refuses_across_dots :
    (reached .standard dottedCalls).define "a.b" (.shorthand "c" [] .standard)
        .empty = .error (.duplicateTable "a.b.c") ∧
      (reached .standard dottedCalls).StandsApart "b" ∧
      ∃ next model, (reached .standard dottedCalls).define "b"
        (.shorthand "c" [] .standard) .empty = .ok (next, model) := by
  have dotted : (reached .standard dottedCalls).database? "a.b" =
      some ⟨"a.b", "", .empty, []⟩ := rfl
  have plain : (reached .standard dottedCalls).database? "b" =
      some ⟨"b", "", .empty, []⟩ := rfl
  have listed : (reached .standard dottedCalls).Lists "a" "b.c" :=
    ⟨⟨"a", "", .empty, ["b.c"]⟩, rfl, List.mem_singleton_self _⟩
  have overlaps : Model.Overlaps "a.b" "c" "a" "b.c" :=
    ⟨"b", Or.inr ⟨rfl, rfl⟩⟩
  have apart : (reached .standard dottedCalls).StandsApart "b" := by
    intro other database opened part
    have isOpen : other ∈ ["a", "a.b", "b"] :=
      (OrderedMap.mem_keys_iff _ other).mpr ⟨database, opened⟩
    simp only [List.mem_cons, List.not_mem_nil, or_false] at isOpen
    rcases isOpen with rfl | rfl | rfl <;>
      simp [← String.toList_inj, Model.toList_qualify]
  refine ⟨?_, apart, ?_⟩
  · obtain ⟨refused, -, -, -, -⟩ :=
      define_refuses_listed_or_overlapping rfl dottedCalls dotted
        (.shorthand "c" [] .standard) .empty
    exact (refused "a.b.c").mpr
      ⟨Or.inr ⟨"a", "b.c", by decide, listed, overlaps⟩, rfl⟩
  · obtain ⟨-, -, -, defined, alone⟩ :=
      define_refuses_listed_or_overlapping rfl dottedCalls plain
        (.shorthand "c" [] .standard) .empty
    exact defined.mpr fun refused =>
      List.not_mem_nil ((alone apart).mp refused)

/-- A database can refuse a table that it does not list. -/
theorem define_refuses_unlisted :
    (∃ database,
      (reached .standard dottedCalls).database? "a.b" = some database ∧
        "c" ∉ database.tables) ∧
      (reached .standard dottedCalls).define "a.b" (.shorthand "c" [] .standard)
        .empty = .error (.duplicateTable "a.b.c") :=
  ⟨⟨⟨"a.b", "", .empty, []⟩, rfl, List.not_mem_nil⟩, rfl⟩

end Registry
end TerseSchema
