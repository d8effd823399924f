import AnalyticsQuery.Proofs.Schema.Registry

/-!
# The whitelist of tables and columns

A table is declared by its names, the columns that scope its queries, and a list
of columns in which a later one takes the place of an earlier one of its name.
A registry of declared tables is a whitelist: it can be made when the names are
plain and distinct and the scoping columns are declared, and then it answers for
what is declared and for nothing else.

* `column?_table_eq_some_iff`: the columns of a declared table.
* `isSound_iff`: the declarations of tables without flaws.
* `table?_eq_some_iff`: the tables of a registry of declared tables.
* `ofTables_whitelists`: when such a registry can be made, and all its answers.
-/

namespace AnalyticsQuery
namespace Table

/-- The columns that are added to a table are put under their names one after another. -/
theorem withColumns_eq (t : Table) (cs : List Column) :
    t.withColumns cs =
      { t with columns := cs.foldl (fun d c => d.insert c.name c) t.columns } := by
  induction cs generalizing t with
  | nil => rfl
  | cons c cs ih => exact ih (t.withColumn c)

/-- How a table is declared: what it is called, which columns scope it, and its columns in the order
in which they are added. -/
structure Declaration where
  name : String
  database : String
  clientIdField : String
  primaryTimeField : String
  description : String
  columns : List Column
deriving DecidableEq

namespace Declaration

variable {d : Declaration} {field : String} {c : Column}

/-- The declared table. -/
def table (d : Declaration) : Table :=
  ((Table.declare d.name d.database d.clientIdField d.primaryTimeField).describe
    d.description).withColumns d.columns

/-- A field is declared when a column has its name. -/
def Declares (d : Declaration) (field : String) : Prop :=
  ∃ c ∈ d.columns, c.name = field

/-- A column is the last one that is declared as a field. -/
def DeclaresLast (d : Declaration) (field : String) (c : Column) : Prop :=
  ∃ before after,
    d.columns = before ++ c :: after ∧ c.name = field ∧ ∀ later ∈ after, later.name ≠ field

/-- All names of a declaration are plain, and the scoping columns are declared. -/
structure IsSound (d : Declaration) : Prop where
  name : Sql.isPlain d.name = true
  database : Sql.isPlain d.database = true
  columns : ∀ c ∈ d.columns, Sql.isPlain c.name = true
  clientId : d.Declares d.clientIdField
  primaryTime : d.Declares d.primaryTimeField

/-- A declared table has what is declared, and of the columns the map that they make. -/
theorem table_eq (d : Declaration) :
    d.table =
      { name := d.name
        database := d.database
        clientIdField := d.clientIdField
        primaryTimeField := d.primaryTimeField
        description := d.description
        columns := Dict.ofList (d.columns.map fun c => (c.name, c)) } := by
  rw [table, withColumns_eq, Dict.ofList, List.foldl_map]
  rfl

@[simp] theorem name_table (d : Declaration) : d.table.name = d.name := by
  rw [table_eq]

theorem contains_columns_table : d.table.columns.contains field = true ↔ d.Declares field := by
  rw [table_eq, Dict.contains_ofList]
  simp [Declares]

/-- A declared table has as a column what is declared last as the field. -/
theorem column?_table_eq_some_iff : d.table.column? field = some c ↔ d.DeclaresLast field c := by
  rw [Table.column?, table_eq, Dict.get?_ofList_eq_some_iff]
  constructor
  · rintro ⟨before, after, hcolumns, hlast⟩
    obtain ⟨before', rest, hsplit, -, hrest⟩ := List.map_eq_append_iff.mp hcolumns
    obtain ⟨c', after', rfl, hc, rfl⟩ := List.map_eq_cons_iff.mp hrest
    cases hc
    exact ⟨before', after', hsplit, rfl, by simpa using hlast⟩
  · rintro ⟨before, after, hcolumns, rfl, hlast⟩
    exact ⟨before.map fun c => (c.name, c), after.map fun c => (c.name, c), by simp [hcolumns],
      by simpa using hlast⟩

theorem isSome_column?_table : (d.table.column? field).isSome = true ↔ d.Declares field :=
  contains_columns_table

/-- The sound declarations are those of tables without flaws. -/
theorem isSound_iff (d : Declaration) : d.IsSound ↔ d.table.flaw? = none := by
  have hkeys :
      (∀ field ∈ d.table.columns.keys, Sql.isPlain field = true) ↔
        ∀ c ∈ d.columns, Sql.isPlain c.name = true := by
    simp only [← Dict.contains_iff_mem_keys, contains_columns_table, Declares]
    constructor
    · intro h c hc
      exact h c.name ⟨c, hc, rfl⟩
    · rintro h _ ⟨c, hc, rfl⟩
      exact h c hc
  rw [flaw?_eq_none_iff, hkeys, contains_columns_table, contains_columns_table, table_eq]
  constructor
  · intro h
    exact ⟨h.name, h.database, h.columns, h.clientId, h.primaryTime⟩
  · rintro ⟨hname, hdatabase, hcolumns, hclient, htime⟩
    exact ⟨hname, hdatabase, hcolumns, hclient, htime⟩

instance (d : Declaration) : Decidable d.IsSound :=
  decidable_of_iff (d.table.flaw? = none) (isSound_iff d).symm

end Declaration
end Table

namespace Registry

variable {ds : List Table.Declaration} {registry : Registry}

/-- A registry can be made of declared tables when all declarations are sound and no two have one
name. -/
theorem exists_ofTables_iff :
    (∃ registry, ofTables (ds.map Table.Declaration.table) = .ok registry) ↔
      (ds.map Table.Declaration.name).Nodup ∧ ∀ d ∈ ds, d.IsSound := by
  have hnames :
      (ds.map Table.Declaration.table).map Table.name = ds.map Table.Declaration.name := by
    simp [Function.comp_def]
  simp only [ofTables_eq_ok_iff, hnames, List.forall_mem_map, ← Table.Declaration.isSound_iff]
  constructor
  · rintro ⟨-, hsound, hdistinct, -⟩
    exact ⟨hdistinct, hsound⟩
  · rintro ⟨hdistinct, hsound⟩
    exact ⟨⟨_⟩, hsound, hdistinct, rfl⟩

/-- The tables of a registry are the declared ones, each under its own name. -/
theorem table?_eq_some_iff
    (h : ofTables (ds.map Table.Declaration.table) = .ok registry) {name : String} {t : Table} :
    registry.table? name = some t ↔ ∃ d ∈ ds, d.name = name ∧ d.table = t := by
  constructor
  · intro ht
    obtain ⟨hmem, hname, -⟩ := of_table?_ofTables h ht
    obtain ⟨d, hd, rfl⟩ := List.mem_map.mp hmem
    exact ⟨d, hd, by rw [← hname, Table.Declaration.name_table], rfl⟩
  · rintro ⟨d, hd, rfl, rfl⟩
    rw [← Table.Declaration.name_table]
    exact table?_of_mem h (List.mem_map_of_mem hd)

/-- A registry has the columns of the declared tables. -/
theorem column?_eq_some_iff
    (h : ofTables (ds.map Table.Declaration.table) = .ok registry)
    {table field : String} {c : Column} :
    registry.column? table field = some c ↔
      ∃ d ∈ ds, d.name = table ∧ d.DeclaresLast field c := by
  simp only [column?, Option.bind_eq_some_iff, table?_eq_some_iff h]
  constructor
  · rintro ⟨_, ⟨d, hd, hname, rfl⟩, hc⟩
    exact ⟨d, hd, hname, Table.Declaration.column?_table_eq_some_iff.mp hc⟩
  · rintro ⟨d, hd, hname, hc⟩
    exact ⟨d.table, ⟨d, hd, hname, rfl⟩, Table.Declaration.column?_table_eq_some_iff.mpr hc⟩

theorem isTable_iff
    (h : ofTables (ds.map Table.Declaration.table) = .ok registry) {name : String} :
    registry.isTable name = true ↔ name ∈ ds.map Table.Declaration.name := by
  simp only [isTable, Option.isSome_iff_exists, table?_eq_some_iff h, List.mem_map]
  constructor
  · rintro ⟨_, d, hd, hname, -⟩
    exact ⟨d, hd, hname⟩
  · rintro ⟨d, hd, hname⟩
    exact ⟨d.table, d, hd, hname, rfl⟩

theorem isColumn_iff
    (h : ofTables (ds.map Table.Declaration.table) = .ok registry) {table field : String} :
    registry.isColumn table field = true ↔ ∃ d ∈ ds, d.name = table ∧ d.Declares field := by
  simp only [isColumn, Option.isSome_iff_exists, column?_eq_some_iff h,
    ← Table.Declaration.isSome_column?_table, ← Table.Declaration.column?_table_eq_some_iff]
  constructor
  · rintro ⟨c, d, hd, hname, hc⟩
    exact ⟨d, hd, hname, c, hc⟩
  · rintro ⟨d, hd, hname, c, hc⟩
    exact ⟨c, d, hd, hname, hc⟩

/-- The names of the tables are those that are declared, in another order. -/
theorem tableNames_perm (h : ofTables (ds.map Table.Declaration.table) = .ok registry) :
    registry.tableNames.Perm (ds.map Table.Declaration.name) := by
  obtain ⟨-, hdistinct, htables⟩ := ofTables_eq_ok_iff.mp h
  have hkeys :
      ((ds.map Table.Declaration.table).map fun t => (t.name, t)).map Prod.fst =
        (ds.map Table.Declaration.table).map Table.name := by
    simp [Function.comp_def]
  have hperm := Dict.keys_ofList_perm (hkeys ▸ hdistinct)
  rw [hkeys] at hperm
  rw [tableNames, htables]
  simpa [Function.comp_def] using hperm

theorem tableNames_ascending (registry : Registry) : registry.tableNames.Pairwise (· < ·) :=
  List.pairwise_map.mpr registry.tables.ascending

/-- A registry of declared tables can be made exactly when the names of the tables are distinct, all
names are plain and the scoping columns are declared.  It then takes the declared names for tables;
a column on a table is what is declared last under its name on the table of that name, and nothing
else is, in particular nothing whose name is not plain; and it lists the declared names in ascending
order, each once. -/
theorem ofTables_whitelists (ds : List Table.Declaration) :
    ((∃ registry, ofTables (ds.map Table.Declaration.table) = .ok registry) ↔
      (ds.map Table.Declaration.name).Nodup ∧ ∀ d ∈ ds, d.IsSound) ∧
    ∀ registry, ofTables (ds.map Table.Declaration.table) = .ok registry →
      (∀ name, registry.isTable name = true ↔ name ∈ ds.map Table.Declaration.name) ∧
      (∀ table field c, registry.column? table field = some c ↔
        ∃ d ∈ ds, d.name = table ∧ d.DeclaresLast field c) ∧
      (∀ table field, registry.isColumn table field = true ↔
        ∃ d ∈ ds, d.name = table ∧ d.Declares field) ∧
      (∀ table field, Sql.isPlain field = false → registry.isColumn table field = false) ∧
      (∀ table, registry.isColumn table "*" = false) ∧
      registry.tableNames.Pairwise (· < ·) ∧
      registry.tableNames.Perm (ds.map Table.Declaration.name) := by
  refine ⟨exists_ofTables_iff, ?_⟩
  intro registry h
  have hplain :
      ∀ table field, Sql.isPlain field = false → registry.isColumn table field = false := by
    intro table field hfield
    rw [← Bool.not_eq_true]
    intro hcolumn
    obtain ⟨d, hd, -, c, hc, rfl⟩ := (isColumn_iff h).mp hcolumn
    have hsound := (exists_ofTables_iff.mp ⟨registry, h⟩).2 d hd
    rw [hsound.columns c hc] at hfield
    cases hfield
  exact ⟨fun _ => isTable_iff h, fun _ _ _ => column?_eq_some_iff h, fun _ _ => isColumn_iff h,
    hplain, fun table => hplain table "*" (by decide), tableNames_ascending registry,
    tableNames_perm h⟩

/-- Two tables, not in the order of their names; the second one declares a column twice. -/
def shopTables : List Table.Declaration :=
  [ ⟨"visits", "shop", "client_id", "time", "Visits of the shop",
      [.identifier "client_id", .timestamp "time"]⟩,
    ⟨"sales", "shop", "client_id", "time", "",
      [.dimension "amount", .identifier "client_id", .metric "amount", .timestamp "time"]⟩ ]

/-- Of the column that is declared twice the later declaration counts, there is no column of all
columns, and the names of the tables come in order. -/
theorem ofTables_whitelists_shopTables :
    ∃ registry, ofTables (shopTables.map Table.Declaration.table) = .ok registry ∧
      registry.isTable "sales" = true ∧
      registry.column? "sales" "amount" = some (.metric "amount") ∧
      registry.isColumn "visits" "amount" = false ∧
      registry.isColumn "sales" "*" = false ∧
      registry.tableNames.Pairwise (· < ·) ∧ registry.tableNames.Perm ["visits", "sales"] := by
  obtain ⟨hmade, hanswers⟩ := ofTables_whitelists shopTables
  obtain ⟨registry, h⟩ := hmade.mpr ⟨by decide, by decide +kernel⟩
  obtain ⟨htable, hcolumn, hdeclared, -, hstar, hascending, hperm⟩ := hanswers registry h
  have hamount : registry.column? "sales" "amount" = some (.metric "amount") := by
    rw [hcolumn]
    exact ⟨shopTables[1], by simp [shopTables], rfl,
      [.dimension "amount", .identifier "client_id"], [.timestamp "time"], rfl, rfl, by decide⟩
  have hvisits : registry.isColumn "visits" "amount" = false := by
    rw [← Bool.not_eq_true, hdeclared]
    simp [shopTables, Table.Declaration.Declares, Column.identifier, Column.timestamp]
  exact ⟨registry, h, (htable "sales").mpr (by decide), hamount, hvisits, hstar "sales", hascending,
    hperm⟩

end Registry
end AnalyticsQuery
