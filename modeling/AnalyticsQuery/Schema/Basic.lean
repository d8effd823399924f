import AnalyticsQuery.Dict
import AnalyticsQuery.Error
import AnalyticsQuery.Sql.Identifier

/-!
# The schema of the queryable tables

A registry holds the tables that may be queried, each with its columns and
what they may be used for.  A registry is made from declarations that pass a
check, so that every table name, database and column name in it is a plain
identifier and the two columns that scope a query are declared.
-/

namespace AnalyticsQuery

/-- The logical type of a column. -/
inductive ColumnType
  | string
  | number
  | dateTime
  | enumeration
deriving DecidableEq, Repr

/-- The word for a column type. -/
def ColumnType.text : ColumnType → String
  | string => "string"
  | number => "number"
  | dateTime => "datetime"
  | enumeration => "enum"

/-- A column and what it may be used for. -/
structure Column where
  name : String
  type : ColumnType
  /-- Whether its values may be summed up, averaged and compared. -/
  aggregatable : Bool
  /-- Whether filters may name it. -/
  filterable : Bool
deriving DecidableEq, Repr

namespace Column

/-- A text column that filters may name. -/
def dimension (name : String) : Column := ⟨name, .string, false, true⟩

/-- A column of few values that filters may name. -/
def category (name : String) : Column := ⟨name, .enumeration, false, true⟩

/-- A number column that filters may name and whose values may be aggregated. -/
def metric (name : String) : Column := ⟨name, .number, true, true⟩

/-- A text column that can be counted only. -/
def identifier (name : String) : Column := ⟨name, .string, false, false⟩

/-- A time column that filters may name. -/
def timestamp (name : String) : Column := ⟨name, .dateTime, false, true⟩

/-- The same column, open to filters. -/
def asFilterable (c : Column) : Column := { c with filterable := true }

/-- The same column, open to aggregation. -/
def asAggregatable (c : Column) : Column := { c with aggregatable := true }

end Column

/-- A table that may be queried. -/
structure Table where
  name : String
  database : String
  /-- The column that scopes every query to one website. -/
  clientIdField : String
  /-- The column that scopes every query to a range of time. -/
  primaryTimeField : String
  description : String
  columns : Dict Column

namespace Table

/-- A table without columns. -/
def declare (name database clientIdField primaryTimeField : String) : Table :=
  ⟨name, database, clientIdField, primaryTimeField, "", Dict.empty⟩

/-- The same table with a description. -/
def describe (t : Table) (description : String) : Table :=
  { t with description := description }

/-- The same table with a column; of two columns with one name the later counts. -/
def withColumn (t : Table) (c : Column) : Table :=
  { t with columns := t.columns.insert c.name c }

/-- The same table with a list of columns. -/
def withColumns (t : Table) (cs : List Column) : Table :=
  cs.foldl withColumn t

/-- The column of a name. -/
def column? (t : Table) (field : String) : Option Column :=
  t.columns.get? field

/-- The table as it is named in a query. -/
def qualifiedName (t : Table) : String :=
  Sql.quote t.database ++ "." ++ Sql.quote t.name

/-- What is wrong with the declaration of a table. -/
inductive Flaw
  | notPlain (name : String)
  | columnNotPlain (table column : String)
  | columnMissing (table column : String)
  | duplicateTable
deriving DecidableEq, Repr

/-- The wording of a flaw. -/
def Flaw.message : Flaw → String
  | notPlain name => "schema: '" ++ name ++ "' is not a plain identifier"
  | columnNotPlain table column =>
      "schema: column '" ++ table ++ "." ++ column ++ "' is not a plain identifier"
  | columnMissing table column =>
      "schema: table '" ++ table ++ "' does not declare column '" ++ column ++ "'"
  | duplicateTable => "schema: duplicate table name"

/-- A flaw as an error of the engine. -/
def Flaw.toError (f : Flaw) : Error :=
  .internal f.message

/-- The first flaw of a declaration: its names first, its columns, then the scoping columns. -/
def flaw? (t : Table) : Option Flaw :=
  if !Sql.isPlain t.name then some (.notPlain t.name)
  else if !Sql.isPlain t.database then some (.notPlain t.database)
  else
    match t.columns.keys.find? fun c => !Sql.isPlain c with
    | some c => some (.columnNotPlain t.name c)
    | none =>
        match [t.clientIdField, t.primaryTimeField].find? fun c => !t.columns.contains c with
        | some c => some (.columnMissing t.name c)
        | none => none

end Table

/-- The tables that may be queried. -/
structure Registry where
  tables : Dict Table

namespace Registry

/-- Add declared tables one after another; the first flaw stops. -/
def addAll : Dict Table → List Table → Except Table.Flaw (Dict Table)
  | tables, [] => .ok tables
  | tables, t :: rest =>
      match t.flaw? with
      | some flaw => .error flaw
      | none =>
          if tables.contains t.name then .error .duplicateTable
          else addAll (tables.insert t.name t) rest

/-- The registry of declared tables. -/
def ofTables (tables : List Table) : Except Table.Flaw Registry :=
  (addAll Dict.empty tables).map Registry.mk

/-- The table of a name. -/
def table? (r : Registry) (name : String) : Option Table :=
  r.tables.get? name

/-- Whether a name is that of a table. -/
def isTable (r : Registry) (name : String) : Bool :=
  (r.table? name).isSome

/-- The column of a name on the table of a name. -/
def column? (r : Registry) (table field : String) : Option Column :=
  (r.table? table).bind fun t => t.column? field

/-- Whether a name is that of a column on the table of a name. -/
def isColumn (r : Registry) (table field : String) : Bool :=
  (r.column? table field).isSome

/-- The names of the tables in ascending order. -/
def tableNames (r : Registry) : List String :=
  r.tables.keys

end Registry
end AnalyticsQuery
