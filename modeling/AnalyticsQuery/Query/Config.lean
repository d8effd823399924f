import AnalyticsQuery.Query.Aggregate
import AnalyticsQuery.Query.Operator
import AnalyticsQuery.Query.TimeUnit

/-!
# Query configurations

A query configuration names a table, the expressions to select from it, the
filters on its rows and the keys to group them by.  It can be written as JSON
and read back.
-/

namespace AnalyticsQuery

/-- The field that stands for all rows. -/
def wildcard : String := "*"

/-- One select expression. -/
structure Selection where
  field : String
  aggregate : Aggregate
  outputAlias : Option String
deriving DecidableEq

namespace Selection

/-- Whether an expression selects all rows instead of a column. -/
def isWildcard (s : Selection) : Bool :=
  s.field == wildcard

/-- The name of the output column: the alias, or the aggregate and the field. -/
def outputName (s : Selection) : String :=
  match s.outputAlias with
  | some name => if name.isEmpty then derived else name
  | none => derived
where
  derived := s.aggregate.token ++ "_" ++ (if s.isWildcard then "all" else s.field)

/-- Select expressions in JSON. -/
def decoder : Json.Decoder Selection :=
  Json.Decoder.refine
    (Json.Decoder.record "CustomQuerySelect"
      (.cons (.required "field" [] Json.Decoder.string)
      (.cons (.required "aggregate" [] Aggregate.decoder)
      (.cons (.withDefault "alias" [] (Json.Decoder.optional Json.Decoder.string) none)
      .nil))))
    fun (field, aggregate, outputAlias, ()) => .ok ⟨field, aggregate, outputAlias⟩

/-- A select expression as a JSON value. -/
def json (s : Selection) : Json :=
  .ofDict (Dict.ofList
    ([("field", .str s.field), ("aggregate", s.aggregate.json)] ++
      s.outputAlias.toList.map fun name => ("alias", .str name)))

end Selection

/-- One filter. -/
structure Filter where
  field : String
  operator : Operator
  value : FilterValue
deriving DecidableEq

namespace Filter

/-- Filters in JSON. -/
def decoder : Json.Decoder Filter :=
  Json.Decoder.refine
    (Json.Decoder.record "CustomQueryFilter"
      (.cons (.required "field" [] Json.Decoder.string)
      (.cons (.required "operator" ["op"] Operator.decoder)
      (.cons (.required "value" [] FilterValue.decoder)
      .nil))))
    fun (field, operator, value, ()) => .ok ⟨field, operator, value⟩

/-- A filter as a JSON value. -/
def json (f : Filter) : Json :=
  .ofDict (Dict.ofList
    [("field", .str f.field), ("operator", f.operator.json), ("value", f.value.json)])

end Filter

/-- A query on one table. -/
structure Config where
  table : String
  selects : List Selection
  filters : List Filter
  groupBy : List String
  timeBucket : Option TimeUnit
deriving DecidableEq

namespace Config

/-- The text of a JSON value that is one. -/
def text? : Json → Option String
  | .str s => some s
  | _ => none

/-- The names that a JSON value stands for: one text, where the empty one is none, or a list. -/
def names? : Json → Option (List String)
  | .str s => some (if s.isEmpty then [] else [s])
  | .arr items => items.mapM text?
  | _ => none

/-- Group keys in JSON: one name, a list of names, or null for none. -/
def namesDecoder : Json.Decoder (List String) :=
  Json.Decoder.refine (Json.Decoder.optional (Json.Decoder.untagged "OneOrMany" names?))
    fun names => .ok (names.getD [])

/-- Query configurations in JSON. -/
def decoder : Json.Decoder Config :=
  Json.Decoder.refine
    (Json.Decoder.record "CustomQueryConfig"
      (.cons (.required "table" [] Json.Decoder.string)
      (.cons (.required "selects" [] (Json.Decoder.list Selection.decoder))
      (.cons (.withDefault "filters" [] (Json.Decoder.list Filter.decoder) [])
      (.cons (.withDefault "groupBy" [] namesDecoder [])
      (.cons (.withDefault "timeBucket" [] (Json.Decoder.optional TimeUnit.decoder) none)
      .nil))))))
    fun (table, selects, filters, groupBy, timeBucket, ()) =>
      .ok ⟨table, selects, filters, groupBy, timeBucket⟩

/-- A query configuration as a JSON value. -/
def json (c : Config) : Json :=
  .ofDict (Dict.ofList
    ([("table", .str c.table),
      ("selects", .arr (c.selects.map Selection.json)),
      ("filters", .arr (c.filters.map Filter.json)),
      ("groupBy", .texts c.groupBy)] ++
      c.timeBucket.toList.map fun unit => ("timeBucket", unit.json)))

end Config
end AnalyticsQuery
