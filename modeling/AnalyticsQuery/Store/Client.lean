import AnalyticsQuery.Engine.Run
import AnalyticsQuery.Store.Parameter
import AnalyticsQuery.Store.Settings
import AnalyticsQuery.Monitor.Health
import AnalyticsQuery.Monitor.Metrics
import AnalyticsQuery.Web.Outbound

/-!
# Asking the store

The text of a query goes to the store as the body of a request, and each value
for a placeholder as a pair of the query string of its URL; so no value enters
the text of the query.  The answer is an object whose member `data` holds the
rows.
-/

namespace AnalyticsQuery
namespace Store

/-- The error of settings whose URL cannot be read. -/
def invalidUrl (e : Url.UrlError) : Error :=
  .internal ("Invalid ClickHouse URL: " ++ e.message)

/-- The pairs of every request: how names are completed and how rows come back. -/
def settingPairs (settings : Settings) : List (String × String) :=
  [ ("database", settings.database), ("default_format", "JSON"),
    ("output_format_json_quote_64bit_integers", "0"), ("readonly", "2") ]

/-- The pair of a value for a placeholder. -/
def parameterPair (e : String × Binding) : String × String :=
  ("param_" ++ e.1, encode e.2)

/-- All pairs of a request. -/
def pairs (settings : Settings) (params : Dict Binding) : List (String × String) :=
  settingPairs settings ++ params.entries.map parameterPair

/-- The request that carries a query. -/
def request (settings : Settings) (sql : String) (params : Dict Binding) :
    Except Error Web.OutboundRequest :=
  match Url.parse settings.url with
  | .error e => .error (invalidUrl e)
  | .ok url =>
      .ok
        { Web.OutboundRequest.post (url.appendPairs (pairs settings params)) sql with
          authorization := settings.username.map fun u =>
            Web.OutboundRequest.credentials u settings.password }

/-- The answer to a query in JSON; without rows it has none. -/
def rowsDecoder : Json.Decoder (List Row) :=
  Json.Decoder.refine
    (Json.Decoder.record "JsonResponse"
      (.cons (.withDefault "data" [] (Json.Decoder.list Json.Decoder.row) []) .nil))
    fun (rows, ()) => .ok rows

/-- An error message keeps at most this many characters of an answer. -/
def maxExcerpt : Nat := 512

/-- The beginning of an answer, without the blanks at its ends. -/
def excerpt (body : String) : String :=
  String.ofList ((Text.stripWhere Text.isBlankChar body.toList).take maxExcerpt)

/-- The rows of an answer. -/
def readAnswer (a : Web.OutboundAnswer) : Except Error (List Row) :=
  if Web.isSuccess a.status then
    (a.decode rowsDecoder).mapError fun reason =>
      .execution ("ClickHouse response parse failed: " ++ reason)
  else
    .error (.execution
      ("ClickHouse error " ++ Web.statusText a.status ++ ": " ++ excerpt a.body))

/-- The outcome of a query. -/
structure Fetched where
  result : Except Error (List Row)
  /-- The request that was sent, if there was one. -/
  sent : Option Web.OutboundRequest
  /-- What the query says about the store, if it got so far. -/
  condition : Option Monitor.Condition

/-- Send a query to the store; any answer shows that the store can be reached. -/
def fetch (settings : Settings) (transport : Web.Transport) (sql : String)
    (params : Dict Binding) : Fetched :=
  match request settings sql params with
  | .error e => ⟨.error e, none, none⟩
  | .ok r =>
      match transport r with
      | .ok a => ⟨readAnswer a, some r, some .good⟩
      | .error reason =>
          ⟨.error (.execution ("ClickHouse request failed: " ++ reason)), some r,
            some (.bad reason)⟩

/-- The health of the service after a query. -/
def Fetched.health (f : Fetched) (h : Monitor.Health) : Monitor.Health :=
  match f.condition with
  | some condition => h.set .store condition
  | none => h

/-- The metrics of the service after a query that took some time. -/
def Fetched.metrics (f : Fetched) (m : Monitor.Metrics) (ms : UInt64) : Monitor.Metrics :=
  m.recordExecution ms
    (match f.result with
      | .ok _ => false
      | .error _ => true)

end Store
end AnalyticsQuery
