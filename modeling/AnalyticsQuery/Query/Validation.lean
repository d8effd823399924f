import AnalyticsQuery.Calendar
import AnalyticsQuery.Limits
import AnalyticsQuery.Query.Config
import AnalyticsQuery.Schema.Basic

/-!
# Validation of query configurations

A configuration is checked against a registry in a fixed order: the table, the
number of select expressions and each of them, the number of filters and each
of them, the number of group keys and each of them.  The first broken rule is
the answer.
-/

namespace AnalyticsQuery
namespace ValidationError

/-- The table of a configuration is none of the registry. -/
def unknownTable (tableNames : List String) : ValidationError :=
  ⟨.unknownTable, "Invalid table. Valid tables: " ++ String.intercalate ", " tableNames,
    some "table"⟩

/-- A configuration selects nothing. -/
def emptySelects : ValidationError :=
  ⟨.emptySelects, "At least one SELECT expression is required", some "selects"⟩

/-- A configuration has too many select expressions. -/
def tooManySelects : ValidationError :=
  ⟨.tooManySelects,
    "Maximum " ++ Decimal.natText Limits.maxSelects ++ " SELECT expressions allowed",
    some "selects"⟩

/-- An aggregate other than the count is taken of all rows. -/
def wildcardRequiresCount (aggregate : Aggregate) : ValidationError :=
  ⟨.wildcardRequiresCount,
    "Aggregate \"" ++ aggregate.token ++ "\" requires a specific column, not \"*\"",
    some "selects"⟩

/-- A select expression names a column that the table does not have. -/
def unknownColumn (table : String) : ValidationError :=
  ⟨.unknownColumn, "Invalid column for table \"" ++ table ++ "\"", some "selects"⟩

/-- An aggregate is taken of a column that allows counting only. -/
def aggregateNotAllowed (column : String) (aggregate : Aggregate) : ValidationError :=
  ⟨.aggregateNotAllowed,
    "Column \"" ++ column ++ "\" cannot be used with aggregate \"" ++ aggregate.token ++ "\"",
    some "selects"⟩

/-- A configuration has too many filters. -/
def tooManyFilters : ValidationError :=
  ⟨.tooManyFilters, "Maximum " ++ Decimal.natText Limits.maxFilters ++ " filters allowed",
    some "filters"⟩

/-- A filter names a column that the table does not have. -/
def unknownFilterColumn (table : String) : ValidationError :=
  ⟨.unknownFilterColumn, "Invalid filter column for table \"" ++ table ++ "\"",
    some "filters"⟩

/-- A filter names a column that is not open to filters. -/
def filterNotAllowed (column : String) : ValidationError :=
  ⟨.filterNotAllowed, "Column \"" ++ column ++ "\" cannot be used in filters",
    some "filters"⟩

/-- A list is given to an operator that compares with one value. -/
def listNotAccepted (operator : Operator) : ValidationError :=
  ⟨.invalidFilterValue,
    "Operator \"" ++ operator.token ++ "\" does not accept a list value", some "filters"⟩

/-- The value of a filter on a column is not of the needed kind. -/
def valueRequired (operator : Operator) (column needed : String) : ValidationError :=
  ⟨.invalidFilterValue,
    "Operator \"" ++ operator.token ++ "\" on \"" ++ column ++ "\" requires a " ++ needed ++
      " value",
    some "filters"⟩

/-- A configuration has too many group keys. -/
def tooManyGroupBy : ValidationError :=
  ⟨.tooManyGroupBy,
    "Maximum " ++ Decimal.natText Limits.maxGroupKeys ++ " GROUP BY fields allowed",
    some "groupBy"⟩

/-- A group key is a column that the table does not have. -/
def unknownGroupByColumn (table : String) : ValidationError :=
  ⟨.unknownGroupByColumn, "Invalid GROUP BY column for table \"" ++ table ++ "\"",
    some "groupBy"⟩

end ValidationError

namespace Validation

/-- Refuse unless a condition holds. -/
def require (condition : Bool) (error : ValidationError) : Except ValidationError Unit :=
  if condition then .ok () else .error error

/-- Check the members of a list one after another. -/
def checkAll {α : Type} (check : α → Except ValidationError Unit) :
    List α → Except ValidationError Unit
  | [] => .ok ()
  | a :: rest =>
      match check a with
      | .error e => .error e
      | .ok () => checkAll check rest

/-- Check one select expression. -/
def checkSelection (table : Table) (s : Selection) : Except ValidationError Unit :=
  if s.isWildcard then
    require (s.aggregate == .count) (.wildcardRequiresCount s.aggregate)
  else
    match table.column? s.field with
    | none => .error (.unknownColumn table.name)
    | some column =>
        require (column.aggregatable || s.aggregate.countsRows)
          (.aggregateNotAllowed column.name s.aggregate)

/-- Whether a single value is a number, spells one, or is a date or a moment. -/
def isMomentValue (s : Scalar) : Bool :=
  s.toBinary64?.isSome ||
    Calendar.isMoment (Text.stripWhere Text.isBlankChar s.toText.toList)

/-- Whether a filter value is a single value with a property. -/
def isScalarWith (p : Scalar → Bool) : FilterValue → Bool
  | .scalar s => p s
  | .list _ => false

/-- Check the value of a filter on a column. -/
def checkValue (column : Column) (operator : Operator) (value : FilterValue) :
    Except ValidationError Unit :=
  let moment := require (isScalarWith isMomentValue value)
    (.valueRequired operator column.name "date")
  let number := require (isScalarWith (fun s => s.toBinary64?.isSome) value)
    (.valueRequired operator column.name "numeric")
  match operator.family, column.type with
  | .equality, .dateTime => moment
  | .ordering, .dateTime => moment
  | .ordering, _ => number
  | .equality, .number => number
  | _, _ => .ok ()

/-- Check one filter. -/
def checkFilter (table : Table) (f : Filter) : Except ValidationError Unit :=
  match table.column? f.field with
  | none => .error (.unknownFilterColumn table.name)
  | some column =>
      if !column.filterable then .error (.filterNotAllowed column.name)
      else if f.value.isList && f.operator.family != .membership then
        .error (.listNotAccepted f.operator)
      else checkValue column f.operator f.value

/-- Check one group key. -/
def checkGroupKey (table : Table) (field : String) : Except ValidationError Unit :=
  require (table.column? field).isSome (.unknownGroupByColumn table.name)

/-- Check the select expressions. -/
def checkSelects (table : Table) (selects : List Selection) : Except ValidationError Unit :=
  if selects.isEmpty then .error .emptySelects
  else if Limits.maxSelects < selects.length then .error .tooManySelects
  else checkAll (checkSelection table) selects

/-- Check the filters. -/
def checkFilters (table : Table) (filters : List Filter) : Except ValidationError Unit :=
  if Limits.maxFilters < filters.length then .error .tooManyFilters
  else checkAll (checkFilter table) filters

/-- Check the group keys. -/
def checkGroupKeys (table : Table) (fields : List String) : Except ValidationError Unit :=
  if Limits.maxGroupKeys < fields.length then .error .tooManyGroupBy
  else checkAll (checkGroupKey table) fields

end Validation

/-- Check a configuration against a registry; the answer is the first broken rule. -/
def Config.validate (registry : Registry) (config : Config) : Except ValidationError Unit :=
  match registry.table? config.table with
  | none => .error (.unknownTable registry.tableNames)
  | some table =>
      match Validation.checkSelects table config.selects with
      | .error e => .error e
      | .ok () =>
          match Validation.checkFilters table config.filters with
          | .error e => .error e
          | .ok () => Validation.checkGroupKeys table config.groupBy

end AnalyticsQuery
