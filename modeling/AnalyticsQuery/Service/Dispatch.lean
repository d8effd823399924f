import AnalyticsQuery.Service.Answer

/-!
# The service

The service answers requests on seven paths, each with one method; a request
that only asks may also be made for its headers alone.  The paths for queries
are limited in rate, and a token is taken before anything else is looked at.
Browsers may call the service from everywhere.
-/

namespace AnalyticsQuery
namespace Service

/-- The paths of the service. -/
inductive Route
  | query
  | compile
  | custom
  | types
  | health
  | ready
  | live
deriving DecidableEq, Repr

namespace Route

/-- All routes. -/
def all : List Route := [query, compile, custom, types, health, ready, live]

/-- The path of a route. -/
def path : Route → String
  | query => "/query"
  | compile => "/query/compile"
  | custom => "/query/custom"
  | types => "/query/types"
  | health => "/health"
  | ready => "/health/ready"
  | live => "/health/live"

/-- The route of a path. -/
def ofPath? (path : String) : Option Route :=
  all.find? fun r => r.path == path

theorem ofPath?_path (r : Route) : ofPath? r.path = some r := by
  cases r <;> decide

/-- Whether requests on a route only ask and hand nothing over. -/
def onlyAsks : Route → Bool
  | query => false
  | compile => false
  | custom => false
  | types => true
  | health => true
  | ready => true
  | live => true

/-- Whether the rate of requests on a route is limited. -/
def isLimited : Route → Bool
  | query => true
  | compile => true
  | custom => true
  | types => true
  | health => false
  | ready => false
  | live => false

/-- The methods of a route. -/
def methods (r : Route) : List String :=
  if r.onlyAsks then ["GET", "HEAD"] else ["POST"]

/-- Answer a request with a method of the route. -/
def answer (route : Route) (backend : Backend) (arrival : Arrival) (r : Request) (s : State) :
    Exchange :=
  match route with
  | query => answerQuery backend arrival r s
  | compile => answerCompile backend r s
  | custom => answerCustom backend r s
  | types => answerTypes backend s
  | health => answerHealth s
  | ready => .answer s (.empty (probeStatus s.health.isReady))
  | live => .answer s (.empty (probeStatus s.health.isAlive))

/-- Whether a route has the method of a request. -/
def takes (route : Route) (r : Request) : Bool :=
  route.methods.contains r.method

/-- Answer a request on a route, if the method is one of its own. -/
def dispatch (route : Route) (backend : Backend) (arrival : Arrival) (r : Request) (s : State) :
    Exchange :=
  if route.takes r then route.answer backend arrival r s else .answer s (.empty 405)

/-- Take a token for a request on a limited route before answering it. -/
def limited (route : Route) (backend : Backend) (arrival : Arrival) (r : Request) (s : State) :
    Exchange :=
  if route.isLimited then
    let (verdict, limiter) := s.limiter.check arrival.now r.rateKey
    let s := { s with limiter := limiter }
    match verdict with
    | .allowed => route.dispatch backend arrival r s
    | .rejected retryAfter => .refuse (s.count .rateLimitedRequests) (.tooOften retryAfter)
  else route.dispatch backend arrival r s

/-- The form of a response to a method: its headers alone, or with those that would do. -/
def shape (route : Route) (r : Request) (response : Response) : Response :=
  if !route.takes r then response.withHeader "allow" (String.intercalate "," route.methods)
  else if r.method == "HEAD" then { response with body := none }
  else response

end Route

/-- The response to a browser that asks what it may send. -/
def preflight : Response :=
  ((Response.empty 200).withHeader "access-control-allow-methods" "*").withHeader
    "access-control-allow-headers" "*"

/-- A response that scripts from everywhere may read. -/
def allowOrigin (response : Response) : Response :=
  response.withHeader "access-control-allow-origin" "*"

/-- Answer a request. -/
def handle (backend : Backend) (arrival : Arrival) (r : Request) (s : State) : Exchange :=
  let e :=
    if r.method == "OPTIONS" then Exchange.answer s preflight
    else
      match Route.ofPath? r.path with
      | none => .answer s (.empty 404)
      | some route => (route.limited backend arrival r s).mapResponse (route.shape r)
  e.mapResponse allowOrigin

end Service
end AnalyticsQuery
