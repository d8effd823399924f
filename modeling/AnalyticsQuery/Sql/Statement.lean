import AnalyticsQuery.Decimal.Integer
import AnalyticsQuery.Query.Config
import AnalyticsQuery.Sql.Identifier

/-!
# Query statements

A statement is the structure of a query: what it selects, from which table,
under which comparisons joined by AND, grouped and ordered by what, and which
rows it returns.  Values occur in it only as placeholders, which have a name
and a type.  The text of a query is the rendering of a statement.
-/

namespace AnalyticsQuery
namespace Sql

/-- The type of a placeholder. -/
inductive ValueType
  | string
  | float64
  | stringList
deriving DecidableEq, Repr

/-- The word for the type of a placeholder. -/
def ValueType.text : ValueType → String
  | string => "String"
  | float64 => "Float64"
  | stringList => "Array(String)"

/-- A place for a value, in braces. -/
structure Placeholder where
  name : String
  type : ValueType
deriving DecidableEq, Repr

/-- A placeholder as it stands in a query. -/
def Placeholder.sql (p : Placeholder) : String :=
  "\x7b" ++ p.name ++ ":" ++ p.type.text ++ "\x7d"

/-- The name of the placeholder for the website. -/
def websiteParameter : String := "website_id"

/-- The name of the placeholder for the beginning of the range. -/
def startParameter : String := "start_date"

/-- The name of the placeholder for the end of the range. -/
def endParameter : String := "end_date"

/-- The name of the placeholder for the time zone. -/
def timezoneParameter : String := "timezone"

/-- The name of the placeholder for the value of a filter. -/
def filterParameter (index : Nat) : String :=
  "filter_" ++ Decimal.natText index

/-- The placeholder for the time zone. -/
def timezonePlaceholder : Placeholder := ⟨timezoneParameter, .string⟩

/-- The name of the output column for the unit of time. -/
def bucketColumn : String := "date"

/-- What a column is compared with. -/
inductive Operand
  | value (placeholder : Placeholder)
  /-- The moment that a text spells in the time zone of the query. -/
  | moment (name : String)
deriving DecidableEq, Repr

/-- An operand as it stands in a query. -/
def Operand.sql : Operand → String
  | value p => p.sql
  | moment name =>
      "parseDateTimeBestEffort(" ++ (Placeholder.mk name .string).sql ++ ", " ++
        timezonePlaceholder.sql ++ ")"

/-- A comparison of a column with an operand. -/
structure Comparison where
  column : String
  operator : Operator
  operand : Operand
deriving DecidableEq, Repr

/-- A comparison as it stands in a query. -/
def Comparison.sql (c : Comparison) : String :=
  c.operator.predicate (quote c.column) c.operand.sql

/-- One output column. -/
inductive Projection
  /-- The unit of time of the values of a column. -/
  | bucket (unit : TimeUnit) (column : String)
  /-- A group key under its own name. -/
  | key (column : String)
  /-- An aggregate over a column, or over all rows, under a name. -/
  | aggregate (function : Aggregate) (column : Option String) (name : String)
deriving DecidableEq, Repr

namespace Projection

/-- The name of an output column. -/
def outputName : Projection → String
  | bucket _ _ => bucketColumn
  | key column => column
  | aggregate _ _ name => name

/-- An output column as it stands in a query. -/
def sql : Projection → String
  | bucket unit column =>
      unit.bucketSql (quote column) timezonePlaceholder.sql ++ " AS " ++ quote bucketColumn
  | key column => quote column
  | aggregate function column name =>
      function.sql (column.map quote) ++ " AS " ++ quote name

end Projection

/-- The output column that the rows are ordered by. -/
structure RowOrder where
  column : String
  descending : Bool
deriving DecidableEq, Repr

/-- A query on one table. -/
structure Statement where
  projection : List Projection
  database : String
  table : String
  conjuncts : List Comparison
  groupKeys : List String
  order : Option RowOrder
  limit : UInt32
  offset : UInt32
deriving DecidableEq, Repr

namespace Statement

/-- The clause that orders the rows. -/
def orderSql (o : RowOrder) : String :=
  "ORDER BY " ++ quote o.column ++ (if o.descending then " DESC" else " ASC")

/-- The clauses of a query, one a line. -/
def lines (s : Statement) : List String :=
  [ "SELECT " ++ String.intercalate ", " (s.projection.map Projection.sql),
    "FROM " ++ quote s.database ++ "." ++ quote s.table,
    "WHERE " ++ String.intercalate " AND " (s.conjuncts.map Comparison.sql) ] ++
  (if s.groupKeys.isEmpty then []
    else ["GROUP BY " ++ String.intercalate ", " (s.groupKeys.map quote)]) ++
  s.order.toList.map orderSql ++
  ["LIMIT " ++ Decimal.natText s.limit.toNat] ++
  (if 0 < s.offset then ["OFFSET " ++ Decimal.natText s.offset.toNat] else [])

/-- The text of a query. -/
def sql (s : Statement) : String :=
  String.intercalate "\n" s.lines

end Statement
end Sql
end AnalyticsQuery
