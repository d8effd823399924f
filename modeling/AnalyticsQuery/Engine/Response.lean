import AnalyticsQuery.Error
import AnalyticsQuery.Json.Basic

/-!
# Responses of the engine

The response to a request has one item for each of its parameters, either with
rows or with an error, and says what was asked for.
-/

namespace AnalyticsQuery

/-- The outcome of one parameter. -/
structure BatchItem where
  parameter : String
  success : Bool
  data : List Row
  error : Option String
  errorKind : Option ErrorKind

namespace BatchItem

/-- The item of a parameter that was run. -/
def ok (parameter : String) (rows : List Row) : BatchItem :=
  ⟨parameter, true, rows, none, none⟩

/-- The item of a parameter that failed. -/
def failed (parameter : String) (e : Error) : BatchItem :=
  ⟨parameter, false, [], some e.message, some e.kind⟩

/-- The item of an outcome. -/
def ofResult (parameter : String) : Except Error (List Row) → BatchItem
  | .ok rows => ok parameter rows
  | .error e => failed parameter e

/-- An item as a JSON value. -/
def json (i : BatchItem) : Json :=
  .ofDict (Dict.ofList
    ([ ("parameter", .str i.parameter),
       ("success", .bool i.success),
       ("data", .arr (i.data.map Json.ofDict)) ] ++
      i.error.toList.map fun e => ("error", .str e)))

end BatchItem

/-- What an answer says about its request. -/
structure BatchMeta where
  parameters : List String
  totalParameters : Nat
  page : UInt32
  limit : UInt32
  filtersApplied : Nat

/-- The answer to a request. -/
structure BatchResponse where
  queryId : Option String
  data : List BatchItem
  about : BatchMeta

namespace BatchResponse

/-- The number of items that failed. -/
def failures (r : BatchResponse) : Nat :=
  r.data.countP fun i => !i.success

/-- What an answer says about its request, as a JSON value. -/
def aboutJson (m : BatchMeta) : Json :=
  .ofDict (Dict.ofList
    [ ("parameters", .texts m.parameters),
      ("total_parameters", .ofNat m.totalParameters),
      ("page", .ofUInt32 m.page),
      ("limit", .ofUInt32 m.limit),
      ("filters_applied", .ofNat m.filtersApplied) ])

/-- The members of an answer as JSON values. -/
def members (r : BatchResponse) : List (String × Json) :=
  (r.queryId.toList.map fun id => ("queryId", .str id)) ++
    [("data", .arr (r.data.map BatchItem.json)), ("meta", aboutJson r.about)]

end BatchResponse

end AnalyticsQuery
