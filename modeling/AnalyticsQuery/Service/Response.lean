import AnalyticsQuery.Engine.Run

/-!
# Responses of the service

A response has a status, headers and perhaps a JSON body.  Every body is an
object that says whether the request succeeded.  A refusal gives the reason and
a stable code; a batch that succeeds has for each request either the members of
its answer or the reason why it has none.
-/

namespace AnalyticsQuery
namespace Service

/-- A response. -/
structure Response where
  status : Nat
  headers : List (String × String)
  body : Option Json

namespace Response

/-- A response with a JSON body. -/
def json (status : Nat) (members : List (String × Json)) : Response :=
  ⟨status, [("content-type", "application/json")], some (.ofDict (Dict.ofList members))⟩

/-- A response without a body. -/
def empty (status : Nat) : Response :=
  ⟨status, [], none⟩

/-- A response with one more header. -/
def withHeader (r : Response) (name value : String) : Response :=
  { r with headers := r.headers ++ [(name, value)] }

/-- A response to a request that succeeded. -/
def success (members : List (String × Json)) : Response :=
  json 200 (("success", .bool true) :: members)

end Response

/-- Why a request is refused as a whole. -/
structure Refusal where
  status : Nat
  code : String
  message : String
  retryAfter : Option Nat
deriving DecidableEq, Repr

namespace Refusal

/-- The refusal of a request that cannot be understood. -/
def badRequest (message : String) : Refusal :=
  ⟨400, "REQ_001", message, none⟩

/-- The refusal of a caller who asks too often. -/
def tooOften (retryAfter : Nat) : Refusal :=
  ⟨429, "RATE_001", "Rate limit exceeded", some retryAfter⟩

/-- The refusal for an error of the engine. -/
def ofError (e : Error) : Refusal :=
  ⟨e.status, e.code, e.message, none⟩

/-- The refusal of a request without a tenant. -/
def ofTenantFault : TenantFault → Refusal
  | .refused e => ofError e
  | .beforeCalendar => ofError (.internal "date out of range")

/-- The response to a refused request. -/
def response (r : Refusal) : Response :=
  let body :=
    [("success", .bool false), ("error", .str r.message), ("code", .str r.code)]
  match r.retryAfter with
  | none => .json r.status body
  | some seconds => (Response.json r.status body).withHeader "retry-after"
      (Decimal.natText seconds)

end Refusal

/-- The result of a request in a batch as a JSON value. -/
def slotJson : Except Error BatchResponse → Json
  | .ok response => .ofDict (Dict.ofList (("success", .bool true) :: response.members))
  | .error e => .ofDict (Dict.ofList [("success", .bool false), ("error", .str e.message)])

/-- The members of the response to a batch. -/
def batchMembers (slots : List (Except Error BatchResponse)) : List (String × Json) :=
  [("batch", .bool true), ("results", .arr (slots.map slotJson))]

/-- A bound value as a JSON value. -/
def bindingJson : Binding → Json
  | .text s => .str s
  | .number n => .num n
  | .texts l => .texts l

/-- The members of the response with a compiled query. -/
def compiledMembers (q : CompiledQuery) : List (String × Json) :=
  [("sql", .str q.sql), ("params", .ofDict (q.params.map bindingJson))]

/-- The members of the response with the rows of a free query. -/
def rowsMembers (rows : List Row) : List (String × Json) :=
  [ ("data", .arr (rows.map Json.ofDict)),
    ("meta", .ofDict (Dict.ofList [("rowCount", .ofNat rows.length)])) ]

/-- The members of the response with the contents of the catalog. -/
def catalogMembers (catalog : Catalog) : List (String × Json) :=
  [("types", .texts catalog.ids), ("configs", catalog.info)]

end Service
end AnalyticsQuery
