import AnalyticsQuery.Proofs.Query.Parameters
import AnalyticsQuery.Schema.Builtin

/-!
# Placeholders and parameters

The text of a compiled query has placeholders, and the query brings a map of
values for them.  What looks like a placeholder inside a quoted identifier is
none: the placeholders are read off the tokens of the text.

* `mem_placeholders_tokens`: the placeholders of a layout are the four of its
  scope and one for each filter.
* `placeholders_filterCondition`: the condition of a filter has its own
  placeholder, and that of the time zone when it compares moments.
* `placeholders_match_parameters`: each placeholder of a compiled query has a
  value and each value a placeholder, filter by filter.
-/

namespace AnalyticsQuery

namespace Sql

/-- The name of a token that is a placeholder. -/
def Token.placeholder? : Token → Option String
  | placeholder parameter _ => some parameter
  | _ => none

/-- The names of the placeholders in a token list, from the left. -/
def placeholders (ts : List Token) : List String :=
  ts.filterMap Token.placeholder?

theorem placeholders_append (a b : List Token) :
    placeholders (a ++ b) = placeholders a ++ placeholders b :=
  List.filterMap_append

theorem placeholders_intercalate
    {sep : List Token} (hsep : placeholders sep = []) (items : List (List Token)) :
    placeholders (sep.intercalate items) = items.flatMap placeholders := by
  induction items with
  | nil => rfl
  | cons a items ih =>
      cases items with
      | nil => simp
      | cons b items =>
          rw [List.intercalate_cons_cons, placeholders_append, placeholders_append, hsep, ih]
          simp

theorem placeholders_names (names : List String) :
    (names.map fun name => [Token.name name]).flatMap placeholders = [] := by
  rw [List.flatMap_eq_nil_iff]
  intro ts hts
  obtain ⟨name, -, rfl⟩ := List.mem_map.mp hts
  rfl

end Sql

namespace Layout

open Sql

theorem placeholders_selectColumn (s : Selection) :
    placeholders (selectColumn s) = [] := by
  unfold selectColumn
  split <;> rfl

theorem placeholders_columns (table : Table) (config : Config) :
    (columns table config).flatMap placeholders =
      config.timeBucket.toList.map fun _ => "timezone" := by
  have hselects : (config.selects.map selectColumn).flatMap placeholders = [] := by
    rw [List.flatMap_eq_nil_iff]
    intro ts hts
    obtain ⟨s, -, rfl⟩ := List.mem_map.mp hts
    exact placeholders_selectColumn s
  rw [columns, List.flatMap_append, List.flatMap_append, hselects, placeholders_names]
  cases config.timeBucket <;> rfl

theorem placeholders_grouping (config : Config) :
    placeholders (grouping config) = [] := by
  unfold grouping
  split
  · rfl
  · rw [placeholders_append, Token.listed, placeholders_intercalate rfl, placeholders_names]
    rfl

theorem placeholders_ordering (config : Config) :
    placeholders (ordering config) = [] := by
  unfold ordering
  split
  · rfl
  · split
    · rfl
    · cases config.selects <;> rfl

theorem placeholders_paging (limit offset : Nat) :
    placeholders (paging limit offset) = [] := by
  unfold paging
  split <;> rfl

theorem placeholders_operator (o : Operator) :
    placeholders o.tokens = [] := by
  cases o <;> rfl

/-- A column is compared with one placeholder or with the moment that its value spells. -/
theorem filterValue_cases (operator : Operator) (type : ColumnType) (parameter : String) :
    (∃ word, filterValue operator type parameter = [.placeholder parameter word]) ∨
      filterValue operator type parameter = moment parameter := by
  cases operator <;> cases type <;>
    first | exact Or.inl ⟨_, rfl⟩ | exact Or.inr rfl

theorem placeholders_condition
    (operator : Operator) (type : ColumnType) (field parameter : String) :
    placeholders (condition operator type field parameter) =
        placeholders (filterValue operator type parameter) ∧
      filterValue operator type parameter <:+: condition operator type field parameter := by
  unfold condition
  split
  · constructor
    · rw [placeholders_append, placeholders_append]
      exact List.append_nil _
    · exact ⟨_, _, rfl⟩
  · constructor
    · rw [placeholders_append, placeholders_append, placeholders_operator]
      rfl
    · exact ⟨[.name field] ++ operator.tokens, [], List.append_nil _⟩

/-- The condition of a filter has its own placeholder, and that of the time zone when it compares
moments. -/
theorem placeholders_filterCondition (table : Table) (f : Filter) (i : Nat) :
    placeholders (filterCondition table (f, i)) = [filterParameter i] ∨
      placeholders (filterCondition table (f, i)) = [filterParameter i, "timezone"] ∧
        moment (filterParameter i) <:+: filterCondition table (f, i) := by
  -- The column and the operator bring no placeholder of their own.
  obtain ⟨hsame, hinfix⟩ :=
    placeholders_condition f.operator (Compilation.columnType table f.field) f.field
      (filterParameter i)
  unfold filterCondition
  rw [hsame]
  rcases filterValue_cases f.operator (Compilation.columnType table f.field)
    (filterParameter i) with ⟨word, hvalue⟩ | hvalue
  · exact Or.inl (by rw [hvalue]; rfl)
  · rw [hvalue] at hinfix ⊢
    exact Or.inr ⟨rfl, hinfix⟩

theorem mem_placeholders_filters
    (table : Table) (filters : List Filter) (name : String) :
    name ∈ (filters.zipIdx.map (filterCondition table)).flatMap placeholders →
      name = "timezone" ∨ ∃ i < filters.length, name = filterParameter i := by
  intro h
  obtain ⟨ts, hts, hname⟩ := List.mem_flatMap.mp h
  obtain ⟨⟨f, i⟩, hf, rfl⟩ := List.mem_map.mp hts
  have hi : i < filters.length := (List.mem_zipIdx' hf).1
  rcases placeholders_filterCondition table f i with hone | ⟨hboth, -⟩
  · rw [hone] at hname
    exact Or.inr ⟨i, hi, List.mem_singleton.mp hname⟩
  · rw [hboth] at hname
    rcases List.mem_cons.mp hname with hname | hname
    · exact Or.inr ⟨i, hi, hname⟩
    · exact Or.inl (List.mem_singleton.mp hname)

theorem filterParameter_mem_placeholders
    (table : Table) {filters : List Filter} {i : Nat} (hi : i < filters.length) :
    filterParameter i ∈ (filters.zipIdx.map (filterCondition table)).flatMap placeholders := by
  apply List.mem_flatMap.mpr
  refine ⟨filterCondition table (filters[i], i), ?_, ?_⟩
  · apply List.mem_map_of_mem
    rw [List.mk_mem_zipIdx_iff_getElem?]
    exact List.getElem?_eq_getElem hi
  · rcases placeholders_filterCondition table filters[i] i with hone | ⟨hboth, -⟩
    · rw [hone]
      exact List.mem_singleton_self _
    · rw [hboth]
      exact List.mem_cons_self ..

theorem placeholders_tokens (table : Table) (config : Config) (limit offset : Nat) :
    placeholders (tokens table config limit offset) =
      (config.timeBucket.toList.map fun _ => "timezone") ++
        ["website_id", "start_date", "timezone", "end_date", "timezone"] ++
        (config.filters.zipIdx.map (filterCondition table)).flatMap placeholders := by
  have hcolumns := placeholders_columns table config
  have hscope :
      (scopeConditions table).flatMap placeholders =
        ["website_id", "start_date", "timezone", "end_date", "timezone"] := rfl
  have hselect :
      placeholders (Token.listed (columns table config)) =
        config.timeBucket.toList.map fun _ => "timezone" := by
    rw [Token.listed, placeholders_intercalate rfl, hcolumns]
  have hwhere :
      placeholders (Token.conjoined (conditions table config)) =
        ["website_id", "start_date", "timezone", "end_date", "timezone"] ++
          (config.filters.zipIdx.map (filterCondition table)).flatMap placeholders := by
    rw [Token.conjoined, placeholders_intercalate rfl, conditions, List.flatMap_append, hscope]
  have hword : placeholders [.keyword "select"] = [] := rfl
  have hfrom :
      placeholders
          [.keyword "from", .name table.database, .sign ".", .name table.name, .keyword "where"] =
        [] := rfl
  simp only [tokens, placeholders_append, hword, hselect, hwhere, hfrom, placeholders_grouping,
    placeholders_ordering, placeholders_paging, List.nil_append, List.append_nil,
    List.append_assoc]

/-- The placeholders of a layout are the four of its scope and one for each filter. -/
theorem mem_placeholders_tokens
    (table : Table) (config : Config) (limit offset : Nat) (name : String) :
    name ∈ placeholders (tokens table config limit offset) ↔
      name ∈ ["website_id", "start_date", "end_date", "timezone"] ∨
        ∃ i < config.filters.length, name = filterParameter i := by
  rw [placeholders_tokens, List.mem_append, List.mem_append]
  constructor
  · rintro ((hbucket | hscope) | hfilter)
    · obtain ⟨unit, -, rfl⟩ := List.mem_map.mp hbucket
      exact Or.inl (by decide)
    · have hsub :
          ["website_id", "start_date", "timezone", "end_date", "timezone"] ⊆
            ["website_id", "start_date", "end_date", "timezone"] := by
        decide
      exact Or.inl (hsub hscope)
    · rcases mem_placeholders_filters table config.filters name hfilter with rfl | hname
      · exact Or.inl (by decide)
      · exact Or.inr hname
  · rintro (hscope | ⟨i, hi, rfl⟩)
    · have hsub :
          ["website_id", "start_date", "end_date", "timezone"] ⊆
            ["website_id", "start_date", "timezone", "end_date", "timezone"] := by
        decide
      exact Or.inl (Or.inr (hsub hscope))
    · exact Or.inr (filterParameter_mem_placeholders table hi)

end Layout

namespace Compilation

open Sql

theorem mem_keys_bindings
    (table : Table) (config : Config) (scope : Scope) (name : String) :
    name ∈ (bindings table config scope).keys ↔
      name ∈ ["website_id", "start_date", "end_date", "timezone"] ∨
        ∃ i < config.filters.length, name = filterParameter i := by
  rw [(keys_bindings_perm table config scope).mem_iff, List.mem_append]
  apply or_congr Iff.rfl
  constructor
  · intro h
    obtain ⟨i, hi, rfl⟩ := List.mem_map.mp h
    rw [List.mem_range'_1] at hi
    exact ⟨i, by omega, rfl⟩
  · rintro ⟨i, hi, rfl⟩
    apply List.mem_map_of_mem
    rw [List.mem_range'_1]
    omega

theorem size_bindings (table : Table) (config : Config) (scope : Scope) :
    (bindings table config scope).size = 4 + config.filters.length := by
  have hlength := (keys_bindings_perm table config scope).length_eq
  simp only [Dict.keys, List.length_append, List.length_map, List.length_range',
    List.length_cons, List.length_nil] at hlength
  rw [Dict.size]
  omega

end Compilation

open Sql

/-- Each placeholder of a compiled query has a value and each value a placeholder: four of the scope
and one for each filter.  The predicate of a filter, which stands behind the three of the scope, has
the placeholder of that filter only, and that of the time zone when it compares moments; the value
under it is that of the filter. -/
theorem placeholders_match_parameters
    {registry : Registry} {config : Config} {table : Table}
    (h : registry.table? config.table = some table) (scope : Scope) :
    ∃ q ts clauses condition,
      config.compile registry scope = .ok q ∧
      tokens? q.sql = some ts ∧
      (∀ name, name ∈ placeholders ts ↔ name ∈ q.params.keys) ∧
      q.params.size = 4 + config.filters.length ∧
      readClauses? q.sql = some clauses ∧
      Clause.bodies "where" clauses = [condition] ∧
      ∀ i f, config.filters[i]? = some f →
        ∃ predicate, (Token.conjuncts condition)[3 + i]? = some predicate ∧
          (placeholders predicate = [filterParameter i] ∨
            placeholders predicate = [filterParameter i, "timezone"] ∧
              Layout.moment (filterParameter i) <:+: predicate) ∧
          q.params.get? (filterParameter i) =
            some (Compilation.binding f.operator (Compilation.columnType table f.field) f.value) := by
  have hcompile :
      config.compile registry scope =
        .ok ⟨Compilation.statement table config scope.limit scope.offset,
          Compilation.bindings table config scope⟩ := by
    rw [Config.compile, h]
  refine ⟨_, _, _, Token.conjoined (Layout.conditions table config), hcompile,
    Compilation.tokens?_statement table config scope.limit scope.offset, ?_,
    Compilation.size_bindings table config scope,
    Compilation.readClauses?_statement table config scope.limit scope.offset, ?_, ?_⟩
  · intro name
    rw [Layout.mem_placeholders_tokens, Compilation.mem_keys_bindings]
  · rw [Compilation.bodies_statement (by decide) (by decide)]
    unfold Statement.offsetClause
    split <;> rfl
  · intro i f hf
    refine ⟨Layout.filterCondition table (f, i), ?_,
      Layout.placeholders_filterCondition table f i,
      Compilation.get?_bindings_filter hf scope⟩
    -- The conditions of the scope stand in front of those of the filters.
    have hscope : (Layout.scopeConditions table).length = 3 := rfl
    rw [Compilation.conjuncts_conditions, Layout.conditions,
      List.getElem?_append_right (by omega), hscope, Nat.add_sub_cancel_left]
    simp [hf]

/-- A configuration that filters one column again and again and two others by texts, and names an
output column like a placeholder. -/
def repeatedField : Config where
  table := "revenue"
  selects := [⟨"amount", .sum, some "\x7bfilter_9:String\x7d"⟩]
  filters :=
    [ ⟨"created_at", .gte, .scalar (.text "2024-01-05")⟩,
      ⟨"created_at", .isIn, .list [.text "2024-01-06", .text "\x7bfilter_0:String\x7d"]⟩,
      ⟨"created_at", .gte, .scalar (.text "2024-01-07")⟩,
      ⟨"provider", .contains, .scalar (.text "50%")⟩,
      ⟨"country", .eq, .scalar (.text "\x7bwebsite_id:String\x7d")⟩ ]
  groupBy := []
  timeBucket := none

/-- Three filters on one column have three placeholders, and so have those on other columns; the name
of the output column has none. -/
theorem placeholders_match_repeatedField :
    Schema.registry.table? repeatedField.table = some Schema.revenue ∧
      ∃ q ts clauses condition,
        repeatedField.compile Schema.registry (Scope.of "w" "2024-01-01" "2024-01-31") = .ok q ∧
        tokens? q.sql = some ts ∧
        (∀ name, name ∈ placeholders ts ↔ name ∈ q.params.keys) ∧
        "filter_9" ∉ placeholders ts ∧
        q.params.size = 9 ∧
        readClauses? q.sql = some clauses ∧
        Clause.bodies "where" clauses = [condition] ∧
        (∃ predicate, (Token.conjuncts condition)[4]? = some predicate ∧
          (placeholders predicate = ["filter_1"] ∨
            placeholders predicate = ["filter_1", "timezone"] ∧
              Layout.moment "filter_1" <:+: predicate)) ∧
        (∃ predicate, (Token.conjuncts condition)[6]? = some predicate ∧
          (placeholders predicate = ["filter_3"] ∨
            placeholders predicate = ["filter_3", "timezone"] ∧
              Layout.moment "filter_3" <:+: predicate)) ∧
        q.params.get? "filter_0" = some (.text "2024-01-05") ∧
        q.params.get? "filter_1" = some (.texts ["2024-01-06", "\x7bfilter_0:String\x7d"]) ∧
        q.params.get? "filter_2" = some (.text "2024-01-07") ∧
        q.params.get? "filter_3" = some (.text "%50\\%%") ∧
        q.params.get? "filter_4" = some (.text "\x7bwebsite_id:String\x7d") := by
  have htable : Schema.registry.table? repeatedField.table = some Schema.revenue := rfl
  refine ⟨htable, ?_⟩
  obtain ⟨q, ts, clauses, condition, hcompile, htokens, hnames, hsize, hread, hwhere, hfilters⟩ :=
    placeholders_match_parameters htable (Scope.of "w" "2024-01-01" "2024-01-31")
  have hnone : "filter_9" ∉ placeholders ts := by
    rw [hnames]
    cases hcompile
    decide
  obtain ⟨-, -, -, hzero⟩ := hfilters 0 _ rfl
  obtain ⟨predicate, hpredicate, hone, hvalue⟩ := hfilters 1 _ rfl
  obtain ⟨-, -, -, htwo⟩ := hfilters 2 _ rfl
  obtain ⟨pattern, hpattern, hthree, hcontaining⟩ := hfilters 3 _ rfl
  obtain ⟨-, -, -, hfour⟩ := hfilters 4 _ rfl
  have hvalueThree :
      Compilation.binding .contains (Compilation.columnType Schema.revenue "provider")
        (.scalar (.text "50%")) = .text "%50\\%%" := by
    decide +kernel
  exact ⟨q, ts, clauses, condition, hcompile, htokens, hnames, hnone, hsize, hread, hwhere,
    ⟨predicate, hpredicate, hone⟩, ⟨pattern, hpattern, hthree⟩, hzero, hvalue, htwo,
    hcontaining.trans (congrArg some hvalueThree), hfour⟩

end AnalyticsQuery
