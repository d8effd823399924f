import AnalyticsQuery.Service.CompileRequest
import AnalyticsQuery.Service.Exchange

/-!
# Answers to requests

Each route of the service turns a request into an exchange.  The order of the
checks decides which of several faults is reported: the query string first,
then the body, then the tenant.  Requests are counted once they are understood.
-/

namespace AnalyticsQuery

/-- Count an item of an answer; one that failed in the store had been compiled. -/
def Monitor.Metrics.recordItem (m : Monitor.Metrics) (i : BatchItem) : Monitor.Metrics :=
  let m := if i.success || i.errorKind = some .execution then m.count .queriesCompiled else m
  if i.success then m
  else
    let m := m.count .parameterFailures
    if i.errorKind = some .validation then m.count .validationFailures else m

/-- Count the items of an answer. -/
def Monitor.Metrics.recordResponse (m : Monitor.Metrics) (r : BatchResponse) :
    Monitor.Metrics :=
  r.data.foldl recordItem (m.add .parametersExecuted (UInt64.ofNat r.data.length))

/-- Count the items of the answers in a batch. -/
def Monitor.Metrics.recordSlot (m : Monitor.Metrics) :
    Except Error BatchResponse → Monitor.Metrics
  | .ok r => m.recordResponse r
  | .error _ => m

/-- Count an error if it is a broken rule of the schema. -/
def Monitor.Metrics.recordError (m : Monitor.Metrics) (e : Error) : Monitor.Metrics :=
  if e.kind = .validation then m.count .validationFailures else m

namespace Service

/-- Apply a function to the metrics of a state. -/
def State.record (s : State) (f : Monitor.Metrics → Monitor.Metrics) : State :=
  { s with metrics := f s.metrics }

/-- Run a batch of requests of the catalog. -/
def runList (backend : Backend) (now : Moment) (tenant : Tenant) (requests : List Json)
    (s : State) : Exchange :=
  let (e, c) := backend.engine.runBatch backend.store (Consultation.ask backend.ask now) tenant
    requests ⟨s.domains, []⟩
  let s := s.consulted c
  match e.result with
  | .error err => ⟨(Refusal.ofError err).response, e.calls, c.answers, s⟩
  | .ok slots =>
      ⟨.success (batchMembers slots), e.calls, c.answers,
        s.record fun m => slots.foldl Monitor.Metrics.recordSlot m⟩

/-- Run a request of the catalog. -/
def runSingle (backend : Backend) (now : Moment) (tenant : Tenant) (request : BatchRequest)
    (s : State) : Exchange :=
  let (e, c) := backend.engine.run backend.store (Consultation.ask backend.ask now) tenant
    request ⟨s.domains, []⟩
  let s := s.consulted c
  match e.result with
  | .error err => ⟨(Refusal.ofError err).response, e.calls, c.answers, s⟩
  | .ok response =>
      ⟨.success response.members, e.calls, c.answers, s.record fun m => m.recordResponse response⟩

/-- Run the requests of a body: a list is a batch, anything else a single request. -/
def runBody (backend : Backend) (now : Moment) (tenant : Tenant) (s : State) : Json → Exchange
  | .arr requests => runList backend now tenant requests s
  | body =>
      match Json.decode BatchRequest.decoder body with
      | .error e => .refuse s (.badRequest e.message)
      | .ok request => runSingle backend now tenant request s

/-- Answer a request for parameters of the catalog. -/
def answerQuery (backend : Backend) (arrival : Arrival) (r : Request) (s : State) : Exchange :=
  match Caller.ofRequest r with
  | .error refusal => .refuse s refusal
  | .ok caller =>
      match r.payload Json.Decoder.json with
      | .error refusal => .refuse s refusal
      | .ok body =>
          match caller.tenant arrival.today with
          | .error refusal => .refuse s refusal
          | .ok tenant => runBody backend arrival.now tenant (s.count .batchRequests) body

/-- Compile a free query. -/
def runCompile (backend : Backend) (caller : Caller) (request : CompileRequest) (s : State) :
    Exchange :=
  match request.scope caller with
  | .error refusal => .refuse s refusal
  | .ok scope =>
      match request.config.compileValid backend.engine.registry scope with
      | .error e => .refuse (s.record fun m => m.recordError e) (.ofError e)
      | .ok q => .answer (s.count .queriesCompiled) (.success (compiledMembers q))

/-- Answer a request to compile a free query. -/
def answerCompile (backend : Backend) (r : Request) (s : State) : Exchange :=
  match Caller.ofRequest r with
  | .error refusal => .refuse s refusal
  | .ok caller =>
      match r.payload CompileRequest.decoder with
      | .error refusal => .refuse s refusal
      | .ok request => runCompile backend caller request (s.count .compileRequests)

/-- A free query with the time zone of its caller, unless it has one. -/
def withTimezoneOf (caller : Caller) (request : CustomRequest) : CustomRequest :=
  { request with timezone := request.timezone <|> caller.timezone }

/-- Run a free query. -/
def runCustom (backend : Backend) (caller : Caller) (request : CustomRequest) (s : State) :
    Exchange :=
  let e := backend.engine.executeCustom backend.store (withTimezoneOf caller request)
    caller.websiteId
  match e.result with
  | .ok rows => ⟨.success (rowsMembers rows), e.calls, [], s.count .queriesCompiled⟩
  | .error err =>
      ⟨(Refusal.ofError err).response, e.calls, [], s.record fun m => m.recordError err⟩

/-- Answer a request to run a free query. -/
def answerCustom (backend : Backend) (r : Request) (s : State) : Exchange :=
  match Caller.ofRequest r with
  | .error refusal => .refuse s refusal
  | .ok caller =>
      match r.payload CustomRequest.decoder with
      | .error refusal => .refuse s refusal
      | .ok request => runCustom backend caller request (s.count .customQueries)

/-- Answer a request for the contents of the catalog. -/
def answerTypes (backend : Backend) (s : State) : Exchange :=
  .answer s (.success (catalogMembers backend.engine.catalog))

/-- The status of a probe. -/
def probeStatus (passes : Bool) : Nat :=
  if passes then 200 else 503

/-- Answer a request for the health of the service. -/
def answerHealth (s : State) : Exchange :=
  .answer s (.json (probeStatus s.health.status.isServing)
    (s.health.report ++ [("metrics", s.metrics.json)]))

end Service
end AnalyticsQuery
