import AnalyticsQuery.Proofs.Sql.Conjunction
import AnalyticsQuery.Query.Compilation

/-!
# The layout of compiled queries

The text of a compiled query is a fixed sequence of tokens with places for
names.  The layout says for each place which name stands there: a selected
field, the field of a filter, a group key, the name of an output column, or a
name of the table.  It is written down clause by clause, without the statement
that a configuration is compiled to.

* `tokens?_statement`: the text of a compiled statement has exactly the tokens
  of the layout.
* `clauses_statement`: its clauses, with what stands in each of them.
-/

namespace AnalyticsQuery

namespace Layout

open Sql

/-- The moment that the value of a parameter spells. -/
def moment (parameter : String) : List Token :=
  [.name "parseDateTimeBestEffort", .sign "(", .placeholder parameter "String", .sign ",",
    .placeholder "timezone" "String", .sign ")"]

/-- The output column for the unit of time. -/
def bucketColumn (unit : TimeUnit) (time : String) : List Token :=
  [.name unit.function, .sign "(", .name time, .sign ",", .placeholder "timezone" "String",
    .sign ")", .keyword "as", .name "date"]

/-- The output column of a select expression: its field, unless it counts all rows, and its name. -/
def selectColumn (s : Selection) : List Token :=
  [.name s.aggregate.token, .sign "("] ++ (if s.isWildcard then [] else [.name s.field]) ++
    [.sign ")", .keyword "as", .name s.outputName]

/-- The group keys that are no selected field, each where it comes first. -/
def bareKeys (config : Config) : List String :=
  (config.groupBy.filter fun key => !config.selects.any fun s => s.field == key).eraseDups

/-- The output columns. -/
def columns (table : Table) (config : Config) : List (List Token) :=
  (config.timeBucket.toList.map fun unit => bucketColumn unit table.primaryTimeField) ++
    (bareKeys config).map (fun key => [.name key]) ++
    config.selects.map selectColumn

/-- The conditions on website and time. -/
def scopeConditions (table : Table) : List (List Token) :=
  [ [.name table.clientIdField, .sign "=", .placeholder "website_id" "String"],
    [.name table.primaryTimeField, .sign ">="] ++ moment "start_date",
    [.name table.primaryTimeField, .sign "<="] ++ moment "end_date" ]

/-- The value that a filter compares a column of a type with. -/
def filterValue (operator : Operator) (type : ColumnType) (parameter : String) : List Token :=
  match operator.family, type with
  | .equality, .dateTime => moment parameter
  | .ordering, .dateTime => moment parameter
  | .membership, _ => [.placeholder parameter "Array(String)"]
  | .equality, .number => [.placeholder parameter "Float64"]
  | .ordering, _ => [.placeholder parameter "Float64"]
  | _, _ => [.placeholder parameter "String"]

/-- The condition of a filter, whose field is one name. -/
def condition (operator : Operator) (type : ColumnType) (field parameter : String) : List Token :=
  if operator = .startsWith then
    [.name "startsWith", .sign "(", .name field, .sign ","] ++
      filterValue operator type parameter ++ [.sign ")"]
  else [.name field] ++ operator.tokens ++ filterValue operator type parameter

/-- The condition of the filter at an index. -/
def filterCondition (table : Table) (f : Filter × Nat) : List Token :=
  condition f.1.operator (Compilation.columnType table f.1.field) f.1.field (filterParameter f.2)

/-- The conditions on the rows. -/
def conditions (table : Table) (config : Config) : List (List Token) :=
  scopeConditions table ++ config.filters.zipIdx.map (filterCondition table)

/-- The names that rows are grouped by. -/
def groupNames (config : Config) : List String :=
  (config.timeBucket.toList.map fun _ => "date") ++ config.groupBy

/-- The grouping of the rows, if there is any. -/
def grouping (config : Config) : List Token :=
  if (groupNames config).isEmpty then []
  else [.keyword "group", .keyword "by"] ++
    Token.listed ((groupNames config).map fun key => [.name key])

/-- The order of the rows: by the unit of time, or by the first select expression when there are
group keys. -/
def ordering (config : Config) : List Token :=
  match config.timeBucket with
  | some _ => [.keyword "order", .keyword "by", .name "date", .keyword "asc"]
  | none =>
      if config.groupBy.isEmpty then []
      else config.selects.head?.toList.flatMap fun s =>
        [.keyword "order", .keyword "by", .name s.outputName, .keyword "desc"]

/-- The number of rows, and how many are left out in front of them. -/
def paging (limit offset : Nat) : List Token :=
  [.keyword "limit", .number (min limit 10000)] ++
    (if offset = 0 then [] else [.keyword "offset", .number offset])

/-- The tokens of the query of a configuration on a table. -/
def tokens (table : Table) (config : Config) (limit offset : Nat) : List Token :=
  [.keyword "select"] ++ Token.listed (columns table config) ++
    [.keyword "from", .name table.database, .sign ".", .name table.name, .keyword "where"] ++
    Token.conjoined (conditions table config) ++ grouping config ++ ordering config ++
    paging limit offset

end Layout

/-! ## The tokens of a compiled statement -/

namespace Compilation

open Sql

theorem filter_unseen_cons
    (key : String) (seen l : List String) :
    l.filter (fun k => !(key :: seen).contains k) =
      (l.filter fun k => !seen.contains k).filter fun k => !k == key := by
  rw [List.filter_filter]
  simp only [List.contains_cons, Bool.not_or]

/-- Of the keys that are not selected, those that were seen before are left out. -/
theorem bareKeys_eq_eraseDups
    (selects : List Selection) (seen keys : List String) :
    bareKeys selects seen keys =
      ((keys.filter fun key => !selects.any fun s => s.field == key).filter
        fun key => !seen.contains key).eraseDups := by
  induction keys generalizing seen with
  | nil => rfl
  | cons key rest ih =>
      rw [bareKeys, List.filter_cons]
      cases hselected : selects.any fun s => s.field == key with
      | true => simp [ih]
      | false =>
          rw [Bool.not_false, if_pos rfl, List.filter_cons, Bool.false_or]
          cases hseen : seen.contains key with
          | true =>
              rw [if_pos rfl, ih, Bool.not_true, if_neg Bool.false_ne_true]
          | false =>
              rw [if_neg Bool.false_ne_true, ih, Bool.not_false, if_pos rfl,
                List.eraseDups_cons, filter_unseen_cons]

theorem tokens_selectProjection (s : Selection) :
    (selectProjection s).tokens = Layout.selectColumn s := by
  cases h : s.isWildcard <;>
    simp [selectProjection, Projection.tokens, Layout.selectColumn, h]

theorem tokens_projection (table : Table) (config : Config) :
    (projection table config).map Projection.tokens = Layout.columns table config := by
  have hkeys : bareKeys config.selects [] config.groupBy = Layout.bareKeys config := by
    rw [bareKeys_eq_eraseDups, Layout.bareKeys]
    simp
  have hselects :
      (config.selects.map selectProjection).map Projection.tokens =
        config.selects.map Layout.selectColumn := by
    rw [List.map_map]
    exact List.map_congr_left fun s _ => tokens_selectProjection s
  rw [projection, List.map_append, List.map_append, hselects, hkeys, List.map_map, List.map_map]
  rfl

theorem tokens_operand
    (operator : Operator) (type : ColumnType) (name : String) :
    (operand operator type name).tokens = Layout.filterValue operator type name := by
  cases operator <;> cases type <;> rfl

theorem filterComparisons_eq_zipIdx
    (table : Table) (i : Nat) (filters : List Filter) :
    filterComparisons table i filters =
      (filters.zipIdx i).map fun f => comparison table (filterParameter f.2) f.1 := by
  induction filters generalizing i with
  | nil => rfl
  | cons f rest ih =>
      rw [filterComparisons, ih, List.zipIdx_cons, List.map_cons]

theorem tokens_comparison
    (table : Table) (f : Filter × Nat) :
    (comparison table (filterParameter f.2) f.1).tokens = Layout.filterCondition table f := by
  rw [Comparison.tokens, comparison, tokens_operand]
  rfl

theorem tokens_conjuncts
    (table : Table) (config : Config) (limit offset : UInt32) :
    (statement table config limit offset).conjuncts.map Comparison.tokens =
      Layout.conditions table config := by
  have hfilters :
      (filterComparisons table 0 config.filters).map Comparison.tokens =
        config.filters.zipIdx.map (Layout.filterCondition table) := by
    rw [filterComparisons_eq_zipIdx, List.map_map]
    exact List.map_congr_left fun f _ => tokens_comparison table f
  rw [statement, List.map_append, hfilters]
  rfl

theorem toNat_clamp (limit : UInt32) :
    (Limits.clamp limit).toNat = min limit.toNat 10000 := by
  have hmax : Limits.maxQueryLimit.toNat = 10000 := rfl
  rw [Limits.clamp]
  split
  · rename_i hle
    rw [UInt32.le_iff_toNat_le, hmax] at hle
    omega
  · rename_i hlt
    rw [UInt32.le_iff_toNat_le, hmax] at hlt
    omega

/-- The clauses of a compiled statement. -/
theorem clauses_statement
    (table : Table) (config : Config) (limit offset : UInt32) :
    (statement table config limit offset).clauses =
      [ ⟨"select", Token.listed (Layout.columns table config)⟩,
        ⟨"from", [.name table.database, .sign ".", .name table.name]⟩,
        ⟨"where", Token.conjoined (Layout.conditions table config)⟩ ] ++
      Statement.groupClause (Layout.groupNames config) ++
      Statement.orderClause (rowOrder config) ++
      [⟨"limit", [.number (min limit.toNat 10000)]⟩] ++ Statement.offsetClause offset := by
  rw [← tokens_projection, ← tokens_conjuncts table config limit offset, ← toNat_clamp]
  rfl

/-- Clauses that neither group nor order the rows stand at the ends of a compiled statement. -/
theorem bodies_statement
    {word : String} (hgroup : word ≠ "group") (horder : word ≠ "order")
    (table : Table) (config : Config) (limit offset : UInt32) :
    Clause.bodies word (statement table config limit offset).clauses =
      Clause.bodies word
        ([ ⟨"select", Token.listed (Layout.columns table config)⟩,
          ⟨"from", [.name table.database, .sign ".", .name table.name]⟩,
          ⟨"where", Token.conjoined (Layout.conditions table config)⟩,
          ⟨"limit", [.number (min limit.toNat 10000)]⟩ ] ++ Statement.offsetClause offset) := by
  have hkeys : Clause.bodies word (Statement.groupClause (Layout.groupNames config)) = [] := by
    apply Clause.bodies_eq_nil
    intro c hc
    rw [Statement.word_of_mem_groupClause hc]
    exact hgroup.symm
  have hrows : Clause.bodies word (Statement.orderClause (rowOrder config)) = [] := by
    apply Clause.bodies_eq_nil
    intro c hc
    rw [Statement.word_of_mem_orderClause hc]
    exact horder.symm
  rw [clauses_statement]
  simp only [Clause.bodies_append, hkeys, hrows, List.append_nil]
  rw [← Clause.bodies_append]
  rfl

/-- The condition of a compiled statement falls into the conditions of the layout. -/
theorem conjuncts_conditions (table : Table) (config : Config) :
    Token.conjuncts (Token.conjoined (Layout.conditions table config)) =
      Layout.conditions table config := by
  have hne : (statement table config 0 0).conjuncts ≠ [] := by
    simp [statement, scopeComparisons]
  have hall := Token.conjuncts_comparisons hne
  rwa [tokens_conjuncts] at hall

theorem tokens_groupClause (config : Config) :
    (Statement.groupClause (Layout.groupNames config)).flatMap Clause.tokens =
      Layout.grouping config := by
  unfold Layout.grouping Statement.groupClause
  split
  · rfl
  · simp [Clause.tokens]

theorem tokens_orderClause (config : Config) :
    (Statement.orderClause (rowOrder config)).flatMap Clause.tokens =
      Layout.ordering config := by
  obtain ⟨name, selects, filters, groupBy, timeBucket⟩ := config
  cases timeBucket with
  | some unit => rfl
  | none =>
      cases groupBy with
      | nil => rfl
      | cons key keys => cases selects <;> rfl

theorem tokens_offsetClause (offset : UInt32) :
    (Statement.offsetClause offset).flatMap Clause.tokens =
      if offset.toNat = 0 then [] else [.keyword "offset", .number offset.toNat] := by
  have hpos : 0 < offset ↔ ¬ offset.toNat = 0 := by
    rw [UInt32.lt_iff_toNat_lt]
    exact Nat.pos_iff_ne_zero
  unfold Statement.offsetClause
  by_cases hzero : offset.toNat = 0
  · simp [hpos, hzero]
  · simp [hpos, hzero, Clause.tokens]

/-- The clauses of a compiled statement have the tokens of the layout. -/
theorem tokens_clauses
    (table : Table) (config : Config) (limit offset : UInt32) :
    (statement table config limit offset).clauses.flatMap Clause.tokens =
      Layout.tokens table config limit.toNat offset.toNat := by
  rw [clauses_statement]
  simp only [List.flatMap_append, tokens_groupClause, tokens_orderClause, tokens_offsetClause,
    Layout.tokens, Layout.paging]
  simp [Clause.tokens]

theorem toList_filterParameter (i : Nat) :
    (filterParameter i).toList = "filter_".toList ++ Decimal.natChars i := by
  rw [filterParameter, String.toList_append]
  exact congrArg ("filter_".toList ++ ·) String.toList_ofList

theorem isWordChar_of_mem_filterParameter
    {i : Nat} {c : Char} (hc : c ∈ (filterParameter i).toList) :
    isWordChar c = true := by
  have hword : "filter_".toList.all isWordChar = true := by decide
  rw [toList_filterParameter] at hc
  rcases List.mem_append.mp hc with hc | hc
  · exact List.all_eq_true.mp hword c hc
  · exact Lexer.isWordChar_of_isDigit (Lexer.isDigit_of_mem_natChars hc)

theorem parameter_operand
    (operator : Operator) (type : ColumnType) (name : String) :
    (operand operator type name).parameter = name := by
  cases operator <;> cases type <;> rfl

theorem plainParameters_statement
    (table : Table) (config : Config) (limit offset : UInt32) :
    (statement table config limit offset).PlainParameters := by
  have hscope :
      ∀ c ∈ scopeComparisons table, ∀ d ∈ c.operand.parameter.toList, isWordChar d = true := by
    have hwebsite : websiteParameter.toList.all isWordChar = true := by decide
    have hstart : startParameter.toList.all isWordChar = true := by decide
    have hend : endParameter.toList.all isWordChar = true := by decide
    intro c hc
    simp only [scopeComparisons, List.mem_cons, List.not_mem_nil, or_false] at hc
    rcases hc with rfl | rfl | rfl
    · exact List.all_eq_true.mp hwebsite
    · exact List.all_eq_true.mp hstart
    · exact List.all_eq_true.mp hend
  have hfilters :
      ∀ c ∈ filterComparisons table 0 config.filters,
        ∀ d ∈ c.operand.parameter.toList, isWordChar d = true := by
    intro c hc d hd
    rw [filterComparisons_eq_zipIdx] at hc
    obtain ⟨f, -, rfl⟩ := List.mem_map.mp hc
    rw [comparison, parameter_operand] at hd
    exact isWordChar_of_mem_filterParameter hd
  intro c hc
  rcases List.mem_append.mp hc with hc | hc
  · exact hscope c hc
  · exact hfilters c hc

/-- The text of a compiled statement has exactly the tokens of the layout. -/
theorem tokens?_statement
    (table : Table) (config : Config) (limit offset : UInt32) :
    tokens? (statement table config limit offset).sql =
      some (Layout.tokens table config limit.toNat offset.toNat) := by
  rw [tokens?_sql _ (plainParameters_statement table config limit offset), tokens_clauses]

theorem readClauses?_statement
    (table : Table) (config : Config) (limit offset : UInt32) :
    readClauses? (statement table config limit offset).sql =
      some (statement table config limit offset).clauses :=
  readClauses?_sql _ (plainParameters_statement table config limit offset)

end Compilation

end AnalyticsQuery
