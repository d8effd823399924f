import AnalyticsQuery.Limits
import AnalyticsQuery.Schema.Basic
import AnalyticsQuery.Sql.Statement
import AnalyticsQuery.Query.Validation

/-!
# Compiling query configurations

A configuration is compiled under a scope, which names the website, the range
of time and the rows wanted.  The result is a statement and the values for its
placeholders: four of the scope and one for each filter.  The statement always
compares the website column first, and no value of a filter or of the scope has
any influence on it.
-/

namespace AnalyticsQuery

/-- The website, range of time and rows that a configuration is compiled for. -/
structure Scope where
  websiteId : String
  startDate : String
  endDate : String
  timezone : String
  /-- The wanted number of rows, before it is cut off. -/
  limit : UInt32
  offset : UInt32
deriving DecidableEq

/-- The scope of a website and a range in universal time, with the usual number of rows. -/
def Scope.of (websiteId startDate endDate : String) : Scope :=
  ⟨websiteId, startDate, endDate, "UTC", Limits.defaultQueryLimit, 0⟩

/-- A statement with the values for its placeholders. -/
structure CompiledQuery where
  statement : Sql.Statement
  params : Dict Binding

/-- The text of a compiled query. -/
def CompiledQuery.sql (q : CompiledQuery) : String :=
  q.statement.sql

namespace Compilation

open Sql

/-- What a filter on a column of a type compares the column with. -/
def operand (operator : Operator) (type : ColumnType) (name : String) : Operand :=
  match operator.family, type with
  | .membership, _ => .value ⟨name, .stringList⟩
  | .pattern, _ => .value ⟨name, .string⟩
  | .beginning, _ => .value ⟨name, .string⟩
  | .equality, .dateTime => .moment name
  | .ordering, .dateTime => .moment name
  | .ordering, _ => .value ⟨name, .float64⟩
  | .equality, .number => .value ⟨name, .float64⟩
  | .equality, _ => .value ⟨name, .string⟩

/-- The value that a filter on a column of a type binds. -/
def binding (operator : Operator) (type : ColumnType) (value : FilterValue) : Binding :=
  match operator.family, type with
  | .equality, .dateTime => .text value.toText
  | .ordering, .dateTime => .text value.toText
  | _, _ => operator.binding value

/-- The type of a column; one that the table does not have counts as text. -/
def columnType (table : Table) (field : String) : ColumnType :=
  ((table.column? field).map Column.type).getD .string

/-- The comparison that a filter stands for. -/
def comparison (table : Table) (name : String) (f : Filter) : Comparison :=
  ⟨f.field, f.operator, operand f.operator (columnType table f.field) name⟩

/-- The comparisons of filters, numbered from an index on. -/
def filterComparisons (table : Table) : Nat → List Filter → List Comparison
  | _, [] => []
  | i, f :: rest => comparison table (filterParameter i) f :: filterComparisons table (i + 1) rest

/-- The values of filters, numbered from an index on. -/
def filterBindings (table : Table) : Nat → List Filter → List (String × Binding)
  | _, [] => []
  | i, f :: rest =>
      (filterParameter i, binding f.operator (columnType table f.field) f.value) ::
        filterBindings table (i + 1) rest

/-- The values of a scope. -/
def scopeBindings (scope : Scope) : List (String × Binding) :=
  [ (websiteParameter, .text scope.websiteId),
    (startParameter, .text scope.startDate),
    (endParameter, .text scope.endDate),
    (timezoneParameter, .text scope.timezone) ]

/-- The comparisons that scope every query on a table. -/
def scopeComparisons (table : Table) : List Comparison :=
  [ ⟨table.clientIdField, .eq, .value ⟨websiteParameter, .string⟩⟩,
    ⟨table.primaryTimeField, .gte, .moment startParameter⟩,
    ⟨table.primaryTimeField, .lte, .moment endParameter⟩ ]

/-- The group keys that no select expression names, each once. -/
def bareKeys (selects : List Selection) : List String → List String → List String
  | _, [] => []
  | seen, field :: rest =>
      if (selects.any fun s => s.field == field) || seen.contains field then
        bareKeys selects seen rest
      else field :: bareKeys selects (field :: seen) rest

/-- A select expression as an output column. -/
def selectProjection (s : Selection) : Projection :=
  .aggregate s.aggregate (if s.isWildcard then none else some s.field) s.outputName

/-- The output columns: the unit of time, the bare group keys, the select expressions. -/
def projection (table : Table) (config : Config) : List Projection :=
  (config.timeBucket.toList.map fun unit => .bucket unit table.primaryTimeField) ++
    (bareKeys config.selects [] config.groupBy).map .key ++
    config.selects.map selectProjection

/-- The keys that rows are grouped by. -/
def groupKeys (config : Config) : List String :=
  (config.timeBucket.toList.map fun _ => bucketColumn) ++ config.groupBy

/-- The order of the rows: by time, or by the first aggregate when there are group keys. -/
def rowOrder (config : Config) : Option RowOrder :=
  match config.timeBucket with
  | some _ => some ⟨bucketColumn, false⟩
  | none =>
      if config.groupBy.isEmpty then none
      else config.selects.head?.map fun s => ⟨s.outputName, true⟩

/-- The statement of a configuration on a table. -/
def statement (table : Table) (config : Config) (limit offset : UInt32) : Statement where
  projection := projection table config
  database := table.database
  table := table.name
  conjuncts := scopeComparisons table ++ filterComparisons table 0 config.filters
  groupKeys := groupKeys config
  order := rowOrder config
  limit := Limits.clamp limit
  offset := offset

/-- The values for the placeholders of a configuration on a table. -/
def bindings (table : Table) (config : Config) (scope : Scope) : Dict Binding :=
  Dict.ofList (scopeBindings scope ++ filterBindings table 0 config.filters)

end Compilation

/-- The table of a configuration that was not validated is none of the registry. -/
def ValidationError.invalidTable (table : String) : ValidationError :=
  ⟨.unknownTable, "Invalid table: " ++ table, some "table"⟩

/-- Compile a configuration; only the table has to be known. -/
def Config.compile (registry : Registry) (config : Config) (scope : Scope) :
    Except ValidationError CompiledQuery :=
  match registry.table? config.table with
  | none => .error (.invalidTable config.table)
  | some table =>
      .ok
        { statement := Compilation.statement table config scope.limit scope.offset
          params := Compilation.bindings table config scope }

/-- Validate and compile a configuration. -/
def Config.compileValid (registry : Registry) (config : Config) (scope : Scope) :
    Except Error CompiledQuery :=
  match config.validate registry with
  | .error e => .error (.validation e)
  | .ok () => (config.compile registry scope).mapError .validation

end AnalyticsQuery
