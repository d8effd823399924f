import AnalyticsQuery.Proofs.Query.Layout
import AnalyticsQuery.Proofs.Schema.Registry

/-!
# The shape of a configuration

The shape of a configuration is what is left when its names and values are
taken out.  The tokens of a compiled query other than names depend on the shape
only, so no name can bring a keyword, a placeholder or a sign into the text of
a query.

* `blanks_tokens`: layouts of one shape have the same tokens up to names.
* `tokens?_compile_eq_layout`: the text of a compiled query has exactly the
  tokens of its layout, and a configuration of the same shape changes nothing
  but the names in their places.
-/

namespace AnalyticsQuery

/-- A token without the name in it. -/
def Sql.Token.blank : Sql.Token → Sql.Token
  | name _ => name ""
  | t => t

/-- What is left of a configuration when its names and values are taken out. -/
structure Shape where
  timeBucket : Option TimeUnit
  /-- The number of group keys that are output columns of their own. -/
  bareKeys : Nat
  /-- The aggregate of each select expression, and whether it counts all rows. -/
  selects : List (Aggregate × Bool)
  filters : List (Operator × ColumnType)
  groupKeys : Nat
deriving DecidableEq

/-- The shape of a configuration on a table. -/
def Config.shape (table : Table) (config : Config) : Shape where
  timeBucket := config.timeBucket
  bareKeys := (Layout.bareKeys config).length
  selects := config.selects.map fun s => (s.aggregate, s.isWildcard)
  filters := config.filters.map fun f =>
    (f.operator, Compilation.columnType table f.field)
  groupKeys := config.groupBy.length

namespace Layout

open Sql

/-- A token list without the names in it. -/
def blanks (ts : List Token) : List Token :=
  ts.map Token.blank

theorem blanks_append (a b : List Token) : blanks (a ++ b) = blanks a ++ blanks b :=
  List.map_append

theorem blanks_intercalate
    (sep : List Token) (items : List (List Token)) :
    blanks (sep.intercalate items) = (blanks sep).intercalate (items.map blanks) := by
  induction items with
  | nil => rfl
  | cons a items ih =>
      cases items with
      | nil => simp
      | cons b items =>
          have hmap :
              (a :: b :: items).map blanks = blanks a :: blanks b :: items.map blanks := rfl
          rw [List.intercalate_cons_cons, blanks_append, blanks_append, ih, hmap,
            List.intercalate_cons_cons]
          rfl

/-- A list of pieces without names depends on what decides each piece without names. -/
theorem map_blanks_congr
    {α β : Type} {key : α → β} {piece : α → List Token}
    (hpiece : ∀ a b, key a = key b → blanks (piece a) = blanks (piece b))
    {l m : List α} (h : l.map key = m.map key) :
    (l.map piece).map blanks = (m.map piece).map blanks := by
  induction l generalizing m with
  | nil =>
      cases m with
      | nil => rfl
      | cons b m => cases h
  | cons a l ih =>
      cases m with
      | nil => cases h
      | cons b m =>
          simp only [List.map_cons, List.cons.injEq] at h ⊢
          exact ⟨hpiece a b h.1, ih h.2⟩

theorem blanks_names (names : List String) :
    (names.map fun name => [Token.name name]).map blanks =
      List.replicate names.length [Token.name ""] := by
  simp [Function.comp_def, blanks, Token.blank]

theorem blanks_selectColumn
    {s t : Selection} (h : (s.aggregate, s.isWildcard) = (t.aggregate, t.isWildcard)) :
    blanks (selectColumn s) = blanks (selectColumn t) := by
  simp only [Prod.mk.injEq] at h
  obtain ⟨haggregate, hwildcard⟩ := h
  unfold selectColumn
  rw [haggregate, hwildcard]
  split <;> rfl

theorem blanks_condition
    (operator : Operator) (type : ColumnType) (field other parameter : String) :
    blanks (condition operator type field parameter) =
      blanks (condition operator type other parameter) := by
  unfold condition
  split <;> rfl

/-- The operator, the type of the column and the index of a filter. -/
def filterKey (table : Table) (f : Filter × Nat) : (Operator × ColumnType) × Nat :=
  ((f.1.operator, Compilation.columnType table f.1.field), f.2)

theorem blanks_filterCondition
    {table : Table} {f g : Filter × Nat} (h : filterKey table f = filterKey table g) :
    blanks (filterCondition table f) = blanks (filterCondition table g) := by
  simp only [filterKey, Prod.mk.injEq] at h
  obtain ⟨⟨hoperator, htype⟩, hindex⟩ := h
  rw [filterCondition, hoperator, htype, hindex]
  exact blanks_condition ..

section Shape

variable {table : Table} {config other : Config}

theorem blanks_columns (h : other.shape table = config.shape table) :
    (columns table other).map blanks = (columns table config).map blanks := by
  have hbucket : other.timeBucket = config.timeBucket := congrArg Shape.timeBucket h
  have hkeys : (bareKeys other).length = (bareKeys config).length := congrArg Shape.bareKeys h
  have hselects :
      (other.selects.map selectColumn).map blanks =
        (config.selects.map selectColumn).map blanks :=
    map_blanks_congr (fun _ _ => blanks_selectColumn) (congrArg Shape.selects h)
  simp only [columns, List.map_append, hbucket, blanks_names, hkeys, hselects]

theorem blanks_conditions (h : other.shape table = config.shape table) :
    (conditions table other).map blanks = (conditions table config).map blanks := by
  have hindexed :
      ∀ c : Config, c.filters.zipIdx.map (filterKey table) = (c.shape table).filters.zipIdx := by
    intro c
    rw [Config.shape, List.zipIdx_map]
    rfl
  have hfilters :
      (other.filters.zipIdx.map (filterCondition table)).map blanks =
        (config.filters.zipIdx.map (filterCondition table)).map blanks := by
    apply map_blanks_congr (fun _ _ => blanks_filterCondition)
    rw [hindexed, hindexed, h]
  rw [conditions, conditions, List.map_append, List.map_append, hfilters]

theorem blanks_grouping (h : other.shape table = config.shape table) :
    blanks (grouping other) = blanks (grouping config) := by
  have hbucket : other.timeBucket = config.timeBucket := congrArg Shape.timeBucket h
  have hcount : other.groupBy.length = config.groupBy.length := congrArg Shape.groupKeys h
  have hlength : (groupNames other).length = (groupNames config).length := by
    simp only [groupNames, List.length_append, hbucket, hcount]
  unfold grouping
  simp only [List.isEmpty_iff_length_eq_zero, hlength]
  split
  · rfl
  · simp only [Token.listed, blanks_append, blanks_intercalate, blanks_names, hlength]

theorem blanks_ordering (h : other.shape table = config.shape table) :
    blanks (ordering other) = blanks (ordering config) := by
  have hbucket : other.timeBucket = config.timeBucket := congrArg Shape.timeBucket h
  have hcount : other.groupBy.length = config.groupBy.length := congrArg Shape.groupKeys h
  have hselects : other.selects.length = config.selects.length := by
    have hlength := congrArg (fun shape => shape.selects.length) h
    simpa only [Config.shape, List.length_map] using hlength
  unfold ordering
  rw [hbucket]
  cases config.timeBucket with
  | some unit => rfl
  | none =>
      simp only [List.isEmpty_iff_length_eq_zero, hcount]
      split
      · rfl
      · cases hother : other.selects with
        | nil =>
            have hempty : config.selects = [] := by
              rw [hother] at hselects
              exact List.eq_nil_of_length_eq_zero hselects.symm
            rw [hempty]
        | cons s rest =>
            obtain ⟨t, rest', hconfig⟩ : ∃ t rest', config.selects = t :: rest' := by
              apply List.exists_cons_of_length_pos
              rw [← hselects, hother]
              exact Nat.succ_pos _
            rw [hconfig]
            rfl

/-- The tokens other than names depend on the shape of a configuration only. -/
theorem blanks_tokens
    (h : other.shape table = config.shape table) (limit offset : Nat) :
    blanks (tokens table other limit offset) = blanks (tokens table config limit offset) := by
  simp only [tokens, Token.listed, Token.conjoined, blanks_append, blanks_intercalate,
    blanks_columns h, blanks_conditions h, blanks_grouping h, blanks_ordering h]

end Shape

end Layout

open Sql

/-- The text of a compiled query has exactly the tokens of the layout of its configuration, where
every name stands in its place as one token.  Other names in a configuration of the same shape give
the same tokens up to these names. -/
theorem tokens?_compile_eq_layout
    {registry : Registry} {config : Config} {table : Table}
    (h : registry.table? config.table = some table) (scope : Scope) :
    ∃ q, config.compile registry scope = .ok q ∧
      tokens? q.sql =
        some (Layout.tokens table config scope.limit.toNat scope.offset.toNat) ∧
      ∀ other : Config, other.table = config.table → other.shape table = config.shape table →
        ∃ r ts, other.compile registry scope = .ok r ∧ tokens? r.sql = some ts ∧
          ts.map Token.blank =
            (Layout.tokens table config scope.limit.toNat scope.offset.toNat).map
              Token.blank := by
  have hcompile :
      ∀ c : Config, c.table = config.table →
        ∃ q, c.compile registry scope = .ok q ∧
          tokens? q.sql = some (Layout.tokens table c scope.limit.toNat scope.offset.toNat) := by
    intro c hc
    rw [Config.compile, hc, h]
    exact ⟨_, rfl, Compilation.tokens?_statement table c scope.limit scope.offset⟩
  obtain ⟨q, hq, htokens⟩ := hcompile config rfl
  refine ⟨q, hq, htokens, ?_⟩
  intro other htable hshape
  obtain ⟨r, hr, hother⟩ := hcompile other htable
  exact ⟨r, _, hr, hother, Layout.blanks_tokens hshape scope.limit.toNat scope.offset.toNat⟩

theorem Schema.table?_revenue : registry.table? "revenue" = some revenue := by
  have hmem : revenue ∈ tables := by
    simp [tables]
  exact table?_of_mem hmem

/-- A configuration whose names hold backticks, backslashes, reserved words and whole statements. -/
def hostileNames : Config where
  table := "revenue"
  selects := [⟨"a\\\x60, b", .sum, some "x\x60; DROP TABLE t -- "⟩, ⟨"*", .count, none⟩]
  filters := [⟨"1 OR 1 = 1", .startsWith, .scalar (.text "a")⟩]
  groupBy := ["Select", "", "Select"]
  timeBucket := none

/-- None of the hostile names leaves its place. -/
theorem tokens?_compile_hostileNames :
    Schema.registry.table? hostileNames.table = some Schema.revenue ∧
      ∃ q, hostileNames.compile Schema.registry (Scope.of "w" "2024-01-01" "2024-01-02") = .ok q ∧
        tokens? q.sql = some
          [ .keyword "select", .name "Select", .sign ",", .name "", .sign ",",
            .name "sum", .sign "(", .name "a\\\x60, b", .sign ")",
            .keyword "as", .name "x\x60; DROP TABLE t -- ", .sign ",",
            .name "count", .sign "(", .sign ")", .keyword "as", .name "count_all",
            .keyword "from", .name "analytics", .sign ".", .name "revenue",
            .keyword "where", .name "client_id", .sign "=", .placeholder "website_id" "String",
            .keyword "and", .name "created_at", .sign ">=", .name "parseDateTimeBestEffort",
            .sign "(", .placeholder "start_date" "String", .sign ",",
            .placeholder "timezone" "String", .sign ")",
            .keyword "and", .name "created_at", .sign "<=", .name "parseDateTimeBestEffort",
            .sign "(", .placeholder "end_date" "String", .sign ",",
            .placeholder "timezone" "String", .sign ")",
            .keyword "and", .name "startsWith", .sign "(", .name "1 OR 1 = 1", .sign ",",
            .placeholder "filter_0" "String", .sign ")",
            .keyword "group", .keyword "by", .name "Select", .sign ",", .name "", .sign ",",
            .name "Select", .keyword "order", .keyword "by", .name "x\x60; DROP TABLE t -- ",
            .keyword "desc", .keyword "limit", .number 1000 ] := by
  have htable : Schema.registry.table? hostileNames.table = some Schema.revenue :=
    Schema.table?_revenue
  refine ⟨htable, ?_⟩
  obtain ⟨q, hq, htokens, -⟩ :=
    @tokens?_compile_eq_layout Schema.registry hostileNames Schema.revenue htable
      (Scope.of "w" "2024-01-01" "2024-01-02")
  refine ⟨q, hq, ?_⟩
  rw [htokens]
  rfl

end AnalyticsQuery
