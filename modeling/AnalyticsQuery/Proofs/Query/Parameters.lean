import AnalyticsQuery.Proofs.Dict
import AnalyticsQuery.Proofs.Query.Layout
import Mathlib.Data.List.Nodup

/-!
# The parameters of compiled queries

A compiled query has one parameter for each value of its scope and one for each
filter.  The parameters of filters are named by their numbers, and these names
are distinct from one another and from those of the scope.  So no filter
replaces a value of the scope, and no two filters share a value, however many
filters there are.

* `get?_bindings_of_mem`: every value of the scope and of the filters is bound
  under its own name.
* `keys_bindings_perm`: these names are all names that a value is bound under.
-/

namespace AnalyticsQuery
namespace Compilation

open Sql

/-- The names of two filters are distinct because their numbers are. -/
theorem filterParameter_injective {i j : Nat} (h : filterParameter i = filterParameter j) :
    i = j := by
  have hlists := congrArg String.toList h
  rw [toList_filterParameter, toList_filterParameter] at hlists
  have hdigits : Decimal.natChars i = Decimal.natChars j := List.append_cancel_left hlists
  have hvalue := congrArg Decimal.ofDigits hdigits
  rwa [Lexer.ofDigits_natChars, Lexer.ofDigits_natChars] at hvalue

theorem filterParameter_ne
    {name : String} (h : name.toList.head? ≠ some 'f') (i : Nat) :
    name ≠ filterParameter i := by
  rintro rfl
  rw [toList_filterParameter] at h
  exact h rfl

theorem keys_filterBindings
    (table : Table) (i : Nat) (filters : List Filter) :
    (filterBindings table i filters).map Prod.fst =
      (List.range' i filters.length).map filterParameter := by
  induction filters generalizing i with
  | nil => rfl
  | cons f rest ih =>
      rw [filterBindings, List.map_cons, ih, List.length_cons, List.range'_succ, List.map_cons]

/-- No two values of a compiled query have one name. -/
theorem nodup_keys_bindings
    (table : Table) (config : Config) (scope : Scope) :
    ((scopeBindings scope ++ filterBindings table 0 config.filters).map Prod.fst).Nodup := by
  have hscope : ((scopeBindings scope).map Prod.fst).Nodup := by
    have hnames :
        [websiteParameter, startParameter, endParameter, timezoneParameter].Nodup := by
      decide
    exact hnames
  have hfilters : ((filterBindings table 0 config.filters).map Prod.fst).Nodup := by
    rw [keys_filterBindings]
    exact List.Nodup.map (fun _ _ => filterParameter_injective) List.nodup_range'
  have hhead : ∀ name ∈ (scopeBindings scope).map Prod.fst, name.toList.head? ≠ some 'f' := by
    have hnames :
        ∀ name ∈ [websiteParameter, startParameter, endParameter, timezoneParameter],
          name.toList.head? ≠ some 'f' := by
      decide
    exact hnames
  rw [List.map_append]
  refine List.Nodup.append hscope hfilters ?_
  intro name hname hfilter
  rw [keys_filterBindings] at hfilter
  obtain ⟨i, -, rfl⟩ := List.mem_map.mp hfilter
  exact filterParameter_ne (hhead _ hname) i rfl

/-- Every value of a compiled query is bound under its name. -/
theorem get?_bindings_of_mem
    {table : Table} {config : Config} {scope : Scope} {name : String} {value : Binding}
    (h : (name, value) ∈ scopeBindings scope ++ filterBindings table 0 config.filters) :
    (bindings table config scope).get? name = some value :=
  Dict.get?_ofList_of_mem (nodup_keys_bindings table config scope) h

/-- The names of the values are the four of the scope and one for each filter. -/
theorem keys_bindings_perm
    (table : Table) (config : Config) (scope : Scope) :
    (bindings table config scope).keys.Perm
      ([websiteParameter, startParameter, endParameter, timezoneParameter] ++
        (List.range' 0 config.filters.length).map filterParameter) := by
  have hperm := Dict.keys_ofList_perm (nodup_keys_bindings table config scope)
  rwa [List.map_append, keys_filterBindings] at hperm

theorem mem_filterBindings
    {table : Table} {filters : List Filter} {i : Nat} {f : Filter}
    (h : filters[i]? = some f) (first : Nat) :
    (filterParameter (first + i), binding f.operator (columnType table f.field) f.value) ∈
      filterBindings table first filters := by
  induction filters generalizing i first with
  | nil => cases h
  | cons g rest ih =>
      cases i with
      | zero =>
          cases h
          exact List.mem_cons_self ..
      | succ i =>
          have hrest := ih h (first + 1)
          rw [Nat.add_right_comm] at hrest
          exact List.mem_cons_of_mem _ hrest

/-- The parameter of a filter holds what its operator makes of its value on the type of its column,
whatever the other filters are. -/
theorem get?_bindings_filter
    {table : Table} {config : Config} {i : Nat} {f : Filter}
    (h : config.filters[i]? = some f) (scope : Scope) :
    (bindings table config scope).get? (filterParameter i) =
      some (binding f.operator (columnType table f.field) f.value) := by
  have hmem :
      (filterParameter (0 + i), binding f.operator (columnType table f.field) f.value) ∈
        filterBindings table 0 config.filters :=
    mem_filterBindings h 0
  rw [Nat.zero_add] at hmem
  exact get?_bindings_of_mem (List.mem_append_right _ hmem)

/-- The parameter for the website holds the website of the scope. -/
theorem get?_bindings_website
    (table : Table) (config : Config) (scope : Scope) :
    (bindings table config scope).get? websiteParameter = some (.text scope.websiteId) :=
  get?_bindings_of_mem (List.mem_append_left _ (List.mem_cons_self ..))

end Compilation

/-- On a known table every configuration compiles, to its statement and its bindings. -/
theorem Config.compile_of_table?
    {registry : Registry} {config : Config} {table : Table}
    (htable : registry.table? config.table = some table) (scope : Scope) :
    config.compile registry scope =
      .ok ⟨Compilation.statement table config scope.limit scope.offset,
        Compilation.bindings table config scope⟩ := by
  rw [Config.compile, htable]

end AnalyticsQuery
