import AnalyticsQuery.Service.Request
import AnalyticsQuery.Service.Response
import AnalyticsQuery.Url.Form

/-!
# What a request says about its caller

The query string names the website, the range of dates and the time zone, and
a header may name another time zone, which counts more.  The body of a request
is read only when a header says that it is JSON.
-/

namespace AnalyticsQuery

/-- The pairs of a query string as the members of an object. -/
def TenantParams.draftOfPairs (pairs : List (String × String)) : Json.Draft :=
  .record (pairs.map fun pair => (.text pair.1, .str pair.2)) .closed

/-- The tenant parameters of the pairs of a query string. -/
def TenantParams.ofPairs (pairs : List (String × String)) :
    Except Json.DecodeError TenantParams :=
  TenantParams.decoder .value (draftOfPairs pairs)

namespace Service

/-- What a request says about its caller. -/
structure Caller where
  params : TenantParams
  headerTimezone : Option String
deriving DecidableEq

namespace Caller

/-- The header that names a time zone. -/
def timezoneHeader : String := "x-timezone"

/-- What a request says about its caller, unless its query string repeats itself. -/
def ofRequest (r : Request) : Except Refusal Caller :=
  match TenantParams.ofPairs (Url.Form.decode (r.query.getD [])) with
  | .error e => .error (.badRequest ("Failed to deserialize query string: " ++ e.message))
  | .ok params => .ok ⟨params, Request.header? r.headers timezoneHeader⟩

/-- The website that the caller names, unless it is blank. -/
def websiteId (c : Caller) : Option String :=
  Tenant.unlessBlank c.params.websiteId

/-- The time zone that the caller names. -/
def timezone (c : Caller) : Option String :=
  c.headerTimezone <|> c.params.timezone

/-- The tenant of the caller. -/
def tenant (c : Caller) (today : Calendar.Date) : Except Refusal Tenant :=
  (Tenant.resolve c.params c.headerTimezone today).mapError Refusal.ofTenantFault

end Caller

/-- The refusal of a body that cannot be decoded. -/
def Refusal.ofDecodeError (e : Json.DecodeError) : Refusal :=
  .badRequest
    (match e.cause with
      | .malformed _ => "Failed to parse the request body as JSON: " ++ e.placedMessage
      | .mismatch _ =>
          "Failed to deserialize the JSON body into the target type: " ++ e.placedMessage)

/-- The greatest number of bytes in a body. -/
def maxBodyBytes : Nat := 2097152

/-- Decode the body of a request; what follows a whole value is not looked at. -/
def Request.payload {α : Type} (r : Request) (d : Json.Decoder α) : Except Refusal α :=
  if !r.hasJson then
    .error (.badRequest "Expected request with `Content-Type: application/json`")
  else if maxBodyBytes < r.body.utf8ByteSize then
    .error (.badRequest "Failed to buffer the request body: length limit exceeded")
  else (Json.decodeBeginning d r.body).mapError Refusal.ofDecodeError

end Service
end AnalyticsQuery
