import AnalyticsQuery.Proofs.Dict
import AnalyticsQuery.Query.Compilation
import AnalyticsQuery.Schema.Builtin

/-!
# Values do not reach the query text

Two configurations under two scopes *differ in values only* when they have the
same table, select expressions, group keys, unit of time and rows, and their
filters name the same fields with the same operators.  Nothing is said about
the values of the filters, the website, the range of time and the time zone.

* `compile_eq_of_differInValues`: what is compiled from two such pairs has the
  same text and the same parameter names, or fails with the same error.
-/

namespace AnalyticsQuery

/-- The field of a filter and its operator. -/
def Filter.head (f : Filter) : String × Operator :=
  (f.field, f.operator)

/-- Two configurations under two scopes that agree on everything except values. -/
structure DifferInValues (c c' : Config) (s s' : Scope) : Prop where
  table : c.table = c'.table
  selects : c.selects = c'.selects
  groupBy : c.groupBy = c'.groupBy
  timeBucket : c.timeBucket = c'.timeBucket
  filters : c.filters.map Filter.head = c'.filters.map Filter.head
  limit : s.limit = s'.limit
  offset : s.offset = s'.offset

namespace Compilation

open Sql

/-- A filter is compared by its field and operator, whatever its value. -/
theorem comparison_congr
    {f g : Filter} (h : f.head = g.head) (table : Table) (name : String) :
    comparison table name f = comparison table name g := by
  simp only [Filter.head, Prod.mk.injEq] at h
  obtain ⟨hfield, hoperator⟩ := h
  simp only [comparison, hfield, hoperator]

theorem filterComparisons_congr
    {l m : List Filter} (h : l.map Filter.head = m.map Filter.head)
    (table : Table) (i : Nat) :
    filterComparisons table i l = filterComparisons table i m := by
  induction l generalizing m i with
  | nil =>
      cases m with
      | nil => rfl
      | cons g m => cases h
  | cons f l ih =>
      cases m with
      | nil => cases h
      | cons g m =>
          simp only [List.map_cons, List.cons.injEq] at h
          obtain ⟨hhead, htail⟩ := h
          rw [filterComparisons, filterComparisons, comparison_congr hhead, ih htail]

/-- The parameters of filters are named by their number, whatever is bound to them. -/
theorem keys_filterBindings_congr
    {l m : List Filter} (h : l.length = m.length)
    (table : Table) (i : Nat) :
    (filterBindings table i l).map Prod.fst = (filterBindings table i m).map Prod.fst := by
  induction l generalizing m i with
  | nil =>
      cases m with
      | nil => rfl
      | cons g m => cases h
  | cons f l ih =>
      cases m with
      | nil => cases h
      | cons g m =>
          simp only [List.length_cons, Nat.add_right_cancel_iff] at h
          rw [filterBindings, filterBindings, List.map_cons, List.map_cons, ih h]

section Congruence

variable {c c' : Config} {s s' : Scope}

/-- The statement of a configuration holds no value. -/
theorem statement_congr
    (h : DifferInValues c c' s s') (table : Table) :
    statement table c s.limit s.offset = statement table c' s'.limit s'.offset := by
  have hprojection : projection table c = projection table c' := by
    rw [projection, projection, h.selects, h.groupBy, h.timeBucket]
  have hconjuncts :
      filterComparisons table 0 c.filters = filterComparisons table 0 c'.filters :=
    filterComparisons_congr h.filters table 0
  have hgroup : groupKeys c = groupKeys c' := by
    rw [groupKeys, groupKeys, h.groupBy, h.timeBucket]
  have horder : rowOrder c = rowOrder c' := by
    rw [rowOrder, rowOrder, h.selects, h.groupBy, h.timeBucket]
  rw [statement, statement, hprojection, hconjuncts, hgroup, horder, h.limit, h.offset]

theorem keys_bindings_congr
    (h : DifferInValues c c' s s') (table : Table) :
    (bindings table c s).keys = (bindings table c' s').keys := by
  have hcount : c.filters.length = c'.filters.length := by
    simpa using congrArg List.length h.filters
  apply Dict.keys_ofList_congr
  rw [List.map_append, List.map_append, keys_filterBindings_congr hcount]
  rfl

end Congruence

end Compilation

/-- Values have no influence on the text of a query and on the names of its parameters. -/
theorem compile_eq_of_differInValues
    (registry : Registry) {c c' : Config} {s s' : Scope}
    (h : DifferInValues c c' s s') :
    (c.compile registry s).map (fun q => (q.sql, q.params.keys)) =
      (c'.compile registry s').map fun q => (q.sql, q.params.keys) := by
  unfold Config.compile
  rw [h.table]
  cases registry.table? c'.table with
  | none => rfl
  | some table =>
      have hstatement := Compilation.statement_congr h table
      have hkeys := Compilation.keys_bindings_congr h table
      simp only [Except.map, CompiledQuery.sql, hstatement, hkeys]

/-- Payments of a country, by provider. -/
def paymentsFrom (country : FilterValue) : Config where
  table := "revenue"
  selects := [⟨"amount", .sum, none⟩]
  filters := [⟨"country", .eq, country⟩]
  groupBy := ["provider"]
  timeBucket := none

/-- A website, range of time and time zone that try to be query text. -/
def hostileScope : Scope where
  websiteId := "w'; DROP TABLE t"
  startDate := "\x60"
  endDate := "\x7bwebsite_id:String\x7d"
  timezone := "' OR 1 = 1 -- "
  limit := Limits.defaultQueryLimit
  offset := 0

theorem compile_eq_of_hostileValue :
    DifferInValues (paymentsFrom (.scalar (.text "DE")))
        (paymentsFrom (.list [.text "' OR 1 = 1 -- ", .number .zero]))
        (Scope.of "w" "2024-01-01" "2024-01-02") hostileScope ∧
      ((paymentsFrom (.scalar (.text "DE"))).compile Schema.registry
          (Scope.of "w" "2024-01-01" "2024-01-02")).map (fun q => (q.sql, q.params.keys)) =
        ((paymentsFrom (.list [.text "' OR 1 = 1 -- ", .number .zero])).compile Schema.registry
          hostileScope).map fun q => (q.sql, q.params.keys) := by
  have h : DifferInValues (paymentsFrom (.scalar (.text "DE")))
      (paymentsFrom (.list [.text "' OR 1 = 1 -- ", .number .zero]))
      (Scope.of "w" "2024-01-01" "2024-01-02") hostileScope :=
    ⟨rfl, rfl, rfl, rfl, rfl, rfl, rfl⟩
  exact ⟨h, compile_eq_of_differInValues Schema.registry h⟩

end AnalyticsQuery
