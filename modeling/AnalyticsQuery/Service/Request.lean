import AnalyticsQuery.Service.MediaType
import AnalyticsQuery.Text.Blank
import AnalyticsQuery.Text.Split

/-!
# Requests to the service

A request has a method, a path, perhaps a query string, headers and a body.
The name of a header is the same in small and capital letters, and of several
headers with one name the first counts.  A header can be read when it holds
printable ASCII characters and tabs only.
-/

namespace AnalyticsQuery
namespace Service

/-- A request to the service. -/
structure Request where
  method : String
  path : String
  query : Option (List Char)
  headers : List (String × String)
  body : String

namespace Request

/-- The request for a target, which is a path with perhaps a query string. -/
def ofTarget (method target : String) (headers : List (String × String)) (body : String) :
    Request :=
  let (shown, _) := Text.splitFirst '#' target.toList
  let (path, query) := Text.splitFirst '?' shown
  ⟨method, String.ofList path, query, headers, body⟩

/-- A name in small letters. -/
def lowered (name : String) : List Char :=
  name.toList.map Char.toLower

/-- The first header with a given name. -/
def rawHeader? (headers : List (String × String)) (name : String) : Option String :=
  (headers.find? fun h => lowered h.1 == lowered name).map (·.2)

/-- Whether a character of a header can be read. -/
def isReadable (c : Char) : Bool :=
  c = '\t' || (32 ≤ c.toNat && c.toNat ≤ 126)

/-- The first header with a given name, if it can be read. -/
def header? (headers : List (String × String)) (name : String) : Option String :=
  (rawHeader? headers name).filter fun v => v.toList.all isReadable

/-- The address of the first of the machines that a request came through. -/
def firstHop? (headers : List (String × String)) : Option String :=
  match header? headers "x-forwarded-for" with
  | none => none
  | some hops =>
      let first := Text.stripWhere Text.isBlankChar (Text.splitFirst ',' hops.toList).1
      if first.isEmpty then none else some (String.ofList first)

/-- The address of the caller. -/
def clientAddress? (headers : List (String × String)) : Option String :=
  firstHop? headers <|> (header? headers "x-real-ip").map Text.trim

/-- Whether a request says that its body is JSON. -/
def hasJson (r : Request) : Bool :=
  match header? r.headers "content-type" with
  | none => false
  | some v =>
      match MediaType.ofChars? v.toList with
      | none => false
      | some m => m.isJson

/-- The names under which a query string gives the website. -/
def isWebsiteName (name : List Char) : Bool :=
  name == "website_id".toList || name == "websiteId".toList

/-- The website that a pair of a query string names, as it is written. -/
def pairWebsite? (pair : List Char) : Option String :=
  match Text.splitFirst '=' pair with
  | (name, some value) =>
      if isWebsiteName name && !value.isEmpty then some (String.ofList value) else none
  | (_, none) => none

/-- The website that a query string names first, as it is written. -/
def writtenWebsite? (r : Request) : Option String :=
  r.query.bind fun query => (Text.splitOn '&' query).findSome? pairWebsite?

/-- The name of the bucket that a request draws from: that of its website, else its address. -/
def rateKey (r : Request) : String :=
  match r.writtenWebsite? with
  | some id => "website:" ++ id
  | none =>
      match clientAddress? r.headers with
      | some address => "ip:" ++ address
      | none => "anonymous"

end Request
end Service
end AnalyticsQuery
