import AnalyticsQuery.Json.Decode
import AnalyticsQuery.Text.Base64
import AnalyticsQuery.Text.Utf8
import AnalyticsQuery.Url.Basic
import AnalyticsQuery.Web.Status

/-!
# Requests to other services

A request to another service has a method, a URL, a body and maybe the
credentials of a user.  A transport carries it there and either brings an
answer back or says why there is none.
-/

namespace AnalyticsQuery
namespace Web

/-- A request to another service. -/
structure OutboundRequest where
  method : String
  url : Url
  authorization : Option String
  body : String

/-- The answer of another service. -/
structure OutboundAnswer where
  status : Nat
  body : String
deriving DecidableEq, Repr

/-- A way to carry requests to other services; a failure has a reason. -/
abbrev Transport := OutboundRequest → Except String OutboundAnswer

namespace OutboundRequest

/-- A request that only asks. -/
def get (url : Url) : OutboundRequest :=
  ⟨"GET", url, none, ""⟩

/-- A request that hands a body over. -/
def post (url : Url) (body : String) : OutboundRequest :=
  ⟨"POST", url, none, body⟩

/-- The credentials of a user; a password that is not given is empty. -/
def credentials (username : String) (password : Option String) : String :=
  let both := username.toList ++ ':' :: (password.getD "").toList
  String.ofList ("Basic ".toList ++ Text.base64 (Text.utf8Bytes both))

/-- The path and query that a request asks for. -/
def target (r : OutboundRequest) : String :=
  String.ofList r.url.target

end OutboundRequest

namespace OutboundAnswer

/-- What is said of a body that cannot be decoded. -/
def undecodable : String := "error decoding response body"

/-- Decode the body of an answer. -/
def decode {α : Type} (d : Json.Decoder α) (a : OutboundAnswer) : Except String α :=
  (Json.decodeText d a.body).mapError fun _ => undecodable

end OutboundAnswer
end Web
end AnalyticsQuery
