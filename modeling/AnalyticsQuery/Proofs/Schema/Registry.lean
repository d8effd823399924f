import AnalyticsQuery.Proofs.Dict
import AnalyticsQuery.Schema.Builtin

/-!
# Declared tables

A registry is made from declared tables one after another, and the first flaw
stops it.  So it is made exactly when no table has a flaw and no two of them have
one name, and then it holds the declared tables, each under its own name, and no
others.

* `Table.flaw?_eq_none_iff`: what a table without flaws looks like.
* `addAll_eq_ok_iff`: when more tables can be added, and what comes out.
* `ofTables_eq_ok_iff`: when a registry can be made, and what it holds.
* `of_table?_ofTables`, `table?_of_mem`: its tables are the declared ones.
* `isPlain_of_table?`: the names of the tables of a registry are plain.
* `Schema.ofTables_tables`: the tables of the analytics store have no flaws.
-/

namespace AnalyticsQuery

/-- A table has no flaws when all its names are plain and its scoping columns are there. -/
theorem Table.flaw?_eq_none_iff (t : Table) :
    t.flaw? = none ↔
      Sql.isPlain t.name = true ∧ Sql.isPlain t.database = true ∧
        (∀ c ∈ t.columns.keys, Sql.isPlain c = true) ∧
        t.columns.contains t.clientIdField = true ∧
        t.columns.contains t.primaryTimeField = true := by
  unfold flaw?
  cases Sql.isPlain t.name with
  | false => simp
  | true =>
      cases Sql.isPlain t.database with
      | false => simp
      | true =>
          cases hplain : t.columns.keys.find? fun c => !Sql.isPlain c with
          | some c =>
              have hmem := List.mem_of_find?_eq_some hplain
              have hnot := List.find?_some hplain
              simp only [Bool.not_eq_true'] at hnot
              simp only [Bool.not_true, Bool.false_eq_true, if_false, reduceCtorEq, true_and,
                false_iff, not_and]
              intro hall
              rw [hall c hmem] at hnot
              cases hnot
          | none =>
              simp only [List.find?_eq_none, Bool.not_eq_true', Bool.not_eq_false] at hplain
              cases hclient : t.columns.contains t.clientIdField with
              | false => simp [hclient]
              | true =>
                  cases htime : t.columns.contains t.primaryTimeField with
                  | false => simp [hclient, htime]
                  | true => simpa [hclient, htime] using hplain

namespace Registry

/-- Tables can be added when none has a flaw and each has a name that is not there yet. -/
theorem addAll_eq_ok_iff {tables added : Dict Table} {l : List Table} :
    addAll tables l = .ok added ↔
      (∀ t ∈ l, t.flaw? = none ∧ tables.contains t.name = false) ∧ (l.map Table.name).Nodup ∧
        added = l.foldl (fun d t => d.insert t.name t) tables := by
  induction l generalizing tables with
  | nil => simpa [addAll] using eq_comm
  | cons first rest ih =>
      cases hflaw : first.flaw? with
      | some flaw => simp [addAll, hflaw]
      | none =>
          cases hfresh : tables.contains first.name with
          | true => simp [addAll, hflaw, hfresh]
          | false =>
              have hother : ∀ t : Table,
                  (tables.insert first.name first).contains t.name = false ↔
                    first.name ≠ t.name ∧ tables.contains t.name = false := by
                intro t
                by_cases hname : first.name = t.name
                · simp [Dict.contains, hname]
                · simp [Dict.contains, hname]
              simp only [addAll, hflaw, hfresh, Bool.false_eq_true, if_false, ih, hother,
                List.forall_mem_cons, List.map_cons, List.nodup_cons, List.mem_map, not_exists,
                not_and, List.foldl_cons, true_and, and_self]
              constructor
              · rintro ⟨hall, hdistinct, hadded⟩
                refine ⟨fun t ht => ⟨(hall t ht).1, (hall t ht).2.2⟩, ⟨?_, hdistinct⟩, hadded⟩
                exact fun t ht hname => (hall t ht).2.1 hname.symm
              · rintro ⟨hall, ⟨hname, hdistinct⟩, hadded⟩
                refine ⟨fun t ht => ⟨(hall t ht).1, ?_, (hall t ht).2⟩, hdistinct, hadded⟩
                exact fun heq => hname t ht heq.symm

/-- A registry can be made of tables when none has a flaw and no two have one name; it holds each
table under its name. -/
theorem ofTables_eq_ok_iff {tables : List Table} {registry : Registry} :
    ofTables tables = .ok registry ↔
      (∀ t ∈ tables, t.flaw? = none) ∧ (tables.map Table.name).Nodup ∧
        registry.tables = Dict.ofList (tables.map fun t => (t.name, t)) := by
  have hadded :
      ofTables tables = .ok registry ↔ addAll Dict.empty tables = .ok registry.tables := by
    unfold ofTables
    cases registry with
    | mk added => cases addAll Dict.empty tables <;> simp [Except.map]
  rw [hadded, addAll_eq_ok_iff, Dict.ofList, List.foldl_map]
  simp [Dict.contains]

/-- A table of a registry is a declared one without flaws, under its own name. -/
theorem of_table?_ofTables
    {tables : List Table} {registry : Registry} (h : ofTables tables = .ok registry)
    {name : String} {t : Table} (ht : registry.table? name = some t) :
    t ∈ tables ∧ t.name = name ∧ t.flaw? = none := by
  obtain ⟨hflaw, -, htables⟩ := ofTables_eq_ok_iff.mp h
  rw [table?, htables] at ht
  obtain ⟨_, hmem, heq⟩ := List.mem_map.mp (Dict.mem_of_get?_ofList ht)
  cases heq
  exact ⟨hmem, rfl, hflaw t hmem⟩

/-- A registry has all the tables that it is made from. -/
theorem table?_of_mem
    {tables : List Table} {registry : Registry} (h : ofTables tables = .ok registry)
    {t : Table} (ht : t ∈ tables) : registry.table? t.name = some t := by
  obtain ⟨-, hdistinct, htables⟩ := ofTables_eq_ok_iff.mp h
  rw [table?, htables]
  apply Dict.get?_ofList_of_mem
  · rw [List.map_map]
    exact hdistinct
  · exact List.mem_map_of_mem ht

theorem isPlain_of_table?
    {tables : List Table} {registry : Registry} (h : ofTables tables = .ok registry)
    {name : String} {t : Table} (ht : registry.table? name = some t) :
    Sql.isPlain name = true := by
  obtain ⟨-, rfl, hflaw⟩ := of_table?_ofTables h ht
  exact ((Table.flaw?_eq_none_iff t).mp hflaw).1

end Registry

theorem Schema.ofTables_tables : Registry.ofTables tables = .ok registry := by
  have hok : (Registry.ofTables tables).toBool = true := by
    decide +kernel
  unfold registry
  cases h : Registry.ofTables tables with
  | ok r => rfl
  | error flaw =>
      rw [h] at hok
      cases hok

theorem Schema.table?_of_mem {t : Table} (ht : t ∈ tables) : registry.table? t.name = some t :=
  Registry.table?_of_mem ofTables_tables ht

end AnalyticsQuery
