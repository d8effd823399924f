import AnalyticsQuery.Proofs.Service.CompilePreview
import AnalyticsQuery.Proofs.Service.Tally

/-!
# The course of a request

A request that comes to the service is stopped by the rate limit, or no route
answers requests like it, or a route answers it.  An answer in turn takes one of
four courses: nothing is asked of anyone, a query is compiled and shown, queries
are run, or the one free query fails in the store.

Each course says what the store and the directory of websites were asked, which
status the response has, and by how much the counter of compiled queries grew.
What the service does over any number of requests follows from these facts, and
from no others about the handlers.

* `course_refuse`: an early refusal is a quiet course.
* `course_answer`: the answer of a route takes one of the four courses.
* `passage_handle`: what happens to a request of any kind.
-/

namespace AnalyticsQuery

theorem Error.status_of_execution {e : Error} (h : e.kind = .execution) : e.status = 502 := by
  rw [status, h]

theorem Error.status_of_ne_execution
    {e : Error} (h : e.kind ≠ .execution) :
    e.status = 400 ∨ e.status = 500 := by
  unfold status
  cases hkind : e.kind with
  | validation => exact Or.inl rfl
  | request => exact Or.inl rfl
  | execution => exact absurd hkind h
  | internal => exact Or.inr rfl

open Monitor

namespace Service

/-! ## Refusals that come before everything else -/

/-- A refusal with a status of those that the service gives before it asks anyone. -/
def Refusal.IsEarly (r : Refusal) : Prop :=
  r.status = 400 ∨ r.status = 500

theorem Refusal.isEarly_badRequest (message : String) : (badRequest message).IsEarly :=
  Or.inl rfl

theorem Refusal.isEarly_ofError {e : Error} (h : e.kind ≠ .execution) : (ofError e).IsEarly :=
  Error.status_of_ne_execution h

theorem isEarly_of_caller
    {r : Request} {refusal : Refusal} (h : Caller.ofRequest r = .error refusal) :
    refusal.IsEarly := by
  unfold Caller.ofRequest at h
  split at h
  · cases h
    exact Refusal.isEarly_badRequest _
  · cases h

theorem isEarly_of_payload
    {α : Type} {d : Json.Decoder α} {r : Request} {refusal : Refusal}
    (h : r.payload d = .error refusal) :
    refusal.IsEarly := by
  unfold Request.payload at h
  split at h
  · cases h
    exact Refusal.isEarly_badRequest _
  · split at h
    · cases h
      exact Refusal.isEarly_badRequest _
    · cases hdecode : Json.decodeBeginning d r.body with
      | error e =>
          rw [hdecode] at h
          cases h
          exact Refusal.isEarly_badRequest _
      | ok a =>
          rw [hdecode] at h
          cases h

theorem isEarly_of_tenant
    {caller : Caller} {today : Calendar.Date} {refusal : Refusal}
    (h : caller.tenant today = .error refusal) :
    refusal.IsEarly := by
  unfold Caller.tenant at h
  cases hresolve : Tenant.resolve caller.params caller.headerTimezone today with
  | ok tenant =>
      rw [hresolve] at h
      cases h
  | error fault =>
      rw [hresolve] at h
      cases h
      unfold Tenant.resolve at hresolve
      split at hresolve
      · cases hresolve
        exact Or.inl rfl
      · split at hresolve
        · rename_i hzone
          cases hresolve
          apply Refusal.isEarly_ofError
          simp [Tenant.kind_of_resolveTimezone hzone]
        · split at hresolve
          · rename_i hstart
            cases hresolve
            unfold Tenant.startOf at hstart
            split at hstart
            · cases hstart
            · split at hstart
              · cases hstart
              · cases hstart
                exact Or.inr rfl
          · cases hresolve

theorem isEarly_of_scope
    {request : CompileRequest} {caller : Caller} {refusal : Refusal}
    (h : request.scope caller = .error refusal) :
    refusal.IsEarly := by
  unfold CompileRequest.scope at h
  split at h
  · cases h
    exact Refusal.isEarly_badRequest _
  · split at h
    · cases h
      exact Refusal.isEarly_badRequest _
    · split at h
      · rename_i hzone
        cases h
        apply Refusal.isEarly_ofError
        simp [Tenant.kind_of_resolveTimezone hzone]
      · cases h

/-! ## The courses of an answer -/

/-- The counter of compiled queries. -/
def State.compiled (s : State) : UInt64 :=
  s.metrics.get .queriesCompiled

@[simp] theorem State.compiled_count (s : State) (c : Counter) :
    (s.count c).compiled = if c = .queriesCompiled then s.compiled + 1 else s.compiled := by
  simp [State.compiled, State.count, Metrics.count]

/-- Neither the store nor the directory was asked anything. -/
structure Exchange.IsQuiet (s : State) (e : Exchange) : Prop where
  calls : e.calls = []
  answers : e.answers = []
  domains : e.state.domains = s.domains

/-- What an answer of a route does beside its response. -/
inductive Course (route : Route) (s : State) (e : Exchange) : Prop
  /-- Nothing is asked of anyone. -/
  | quiet
      (quiet : e.IsQuiet s)
      (status : e.response.status ≠ 429 ∧ e.response.status ≠ 502)
      (shown : route = .compile → e.response.status ≠ 200)
      (compiled : e.state.compiled = s.compiled)
  /-- A query is compiled and shown. -/
  | previewed
      (route : route = .compile)
      (quiet : e.IsQuiet s)
      (status : e.response.status = 200)
      (compiled : e.state.compiled = s.compiled + 1)
  /-- Queries are run. -/
  | served
      (route : route = .query ∨ route = .custom)
      (status : e.response.status = 200)
      (compiled : e.state.compiled = s.compiled + UInt64.ofNat e.calls.length)
  /-- A free query fails in the store, and is not counted. -/
  | failed
      (route : route = .custom)
      (status : e.response.status = 502)
      (call : e.calls.length = 1)
      (compiled : e.state.compiled = s.compiled)

section Courses

variable {route : Route} {s s' : State} {e : Exchange}

theorem Exchange.IsQuiet.of_state (h : e.IsQuiet s') (hdomains : s'.domains = s.domains) :
    e.IsQuiet s :=
  ⟨h.calls, h.answers, h.domains.trans hdomains⟩

/-- A course looks at the kept domains and at the counter of compiled queries only. -/
theorem Course.of_state
    (h : Course route s' e) (hdomains : s'.domains = s.domains)
    (hcompiled : s'.compiled = s.compiled) :
    Course route s e := by
  cases h with
  | quiet quiet status shown compiled =>
      exact Course.quiet (quiet.of_state hdomains) status shown (compiled.trans hcompiled)
  | previewed route quiet status compiled =>
      exact Course.previewed route (quiet.of_state hdomains) status (by rw [compiled, hcompiled])
  | served route status compiled =>
      exact Course.served route status (by rw [compiled, hcompiled])
  | failed route status call compiled =>
      exact Course.failed route status call (compiled.trans hcompiled)

/-- Counting what is not a compiled query changes no course. -/
theorem Course.of_count
    {c : Counter} (h : Course route (s.count c) e) (hc : c ≠ .queriesCompiled) :
    Course route s e := by
  apply h.of_state
  · rfl
  · simp [hc]

/-- An early refusal is a quiet course. -/
theorem course_refuse
    {r : Refusal} (h : r.IsEarly) (hdomains : s'.domains = s.domains)
    (hcompiled : s'.compiled = s.compiled) :
    Course route s (.refuse s' r) := by
  have hstatus : (Exchange.refuse s' r).response.status = r.status := r.status_response
  apply Course.quiet
  · exact ⟨rfl, rfl, hdomains⟩
  · rcases h with h | h
    · simp [hstatus, h]
    · simp [hstatus, h]
  · intro _
    rcases h with h | h
    · simp [hstatus, h]
    · simp [hstatus, h]
  · exact hcompiled

variable {backend : Backend} (hstore : backend.store.FailsInExecution)

include hstore

theorem course_runList
    (now : Moment) (tenant : Tenant) (requests : List Json) :
    Course .query s (runList backend now tenant requests s) := by
  by_cases hlong : Limits.maxBatchRequests < requests.length
  · have hrefused :
        runList backend now tenant requests s =
          .refuse s (.ofError Engine.tooManyRequests) := by
      unfold runList Engine.runBatch
      rw [if_pos hlong]
      rfl
    rw [hrefused]
    exact course_refuse (Or.inl rfl) rfl rfl
  · simp only [runList, Engine.runBatch, if_neg hlong, Executed.map]
    apply Course.served
    · exact Or.inl rfl
    · rfl
    · apply Executed.tallied_all
      intro e he
      exact backend.engine.tallied_of_mem_runSlots tenant hstore _ he

theorem course_runSingle
    (now : Moment) (tenant : Tenant) (request : BatchRequest) :
    Course .query s (runSingle backend now tenant request s) := by
  have htallied := backend.engine.tallied_run tenant hstore (Consultation.ask backend.ask now)
    request ⟨s.domains, []⟩
  by_cases hshape : request.hasShape = true
  · simp only [Engine.run, if_pos hshape, Executed.map] at htallied
    simp only [runSingle, Engine.run, if_pos hshape, Executed.map]
    apply Course.served
    · exact Or.inl rfl
    · rfl
    · exact htallied s.metrics
  · have hrefused :
        runSingle backend now tenant request s =
          .refuse s (.ofError BatchRequest.shapeError) := by
      unfold runSingle Engine.run
      rw [if_neg hshape]
      rfl
    rw [hrefused]
    exact course_refuse (Or.inl rfl) rfl rfl

theorem course_runBody
    (now : Moment) (tenant : Tenant) (body : Json) :
    Course .query s (runBody backend now tenant s body) := by
  unfold runBody
  split
  · exact course_runList hstore now tenant _
  · split
    · exact course_refuse (Refusal.isEarly_badRequest _) rfl rfl
    · exact course_runSingle hstore now tenant _

theorem course_answerQuery (arrival : Arrival) (r : Request) :
    Course .query s (answerQuery backend arrival r s) := by
  unfold answerQuery
  split
  · rename_i hcaller
    exact course_refuse (isEarly_of_caller hcaller) rfl rfl
  · split
    · rename_i hbody
      exact course_refuse (isEarly_of_payload hbody) rfl rfl
    · split
      · rename_i htenant
        exact course_refuse (isEarly_of_tenant htenant) rfl rfl
      · apply Course.of_count
        · exact course_runBody hstore arrival.now _ _
        · decide

omit hstore in
theorem course_runCompile (caller : Caller) (request : CompileRequest) :
    Course .compile s (runCompile backend caller request s) := by
  unfold runCompile
  split
  · rename_i hscope
    exact course_refuse (isEarly_of_scope hscope) rfl rfl
  · split
    · rename_i hinvalid
      apply course_refuse
      · apply Refusal.isEarly_ofError
        simp [Config.kind_of_compileValid hinvalid]
      · rfl
      · exact Metrics.get_recordError _ _
    · apply Course.previewed
      · rfl
      · exact ⟨rfl, rfl, rfl⟩
      · rfl
      · exact State.compiled_count s .queriesCompiled

omit hstore in
theorem course_answerCompile (r : Request) :
    Course .compile s (answerCompile backend r s) := by
  unfold answerCompile
  split
  · rename_i hcaller
    exact course_refuse (isEarly_of_caller hcaller) rfl rfl
  · split
    · rename_i hbody
      exact course_refuse (isEarly_of_payload hbody) rfl rfl
    · apply Course.of_count
      · exact course_runCompile _ _
      · decide

/-- A free query that fails in the store is no broken rule of the schema, and is counted nowhere. -/
theorem course_runCustom (caller : Caller) (request : CustomRequest) :
    Course .custom s (runCustom backend caller request s) := by
  unfold runCustom Engine.executeCustom
  cases hcompile : backend.engine.compileCustom (withTimezoneOf caller request)
      caller.websiteId with
  | error e =>
      apply course_refuse
      · exact Refusal.isEarly_ofError (Engine.kind_of_compileCustom hcompile)
      · rfl
      · exact Metrics.get_recordError _ _
  | ok q =>
      cases hanswer : backend.store q with
      | ok rows =>
          simp only [Executed.ofCompiled, hanswer]
          apply Course.served
          · exact Or.inr rfl
          · rfl
          · exact State.compiled_count s .queriesCompiled
      | error e =>
          simp only [Executed.ofCompiled, hanswer]
          apply Course.failed
          · rfl
          · rw [Refusal.status_response]
            exact Error.status_of_execution (hstore q e hanswer)
          · rfl
          · exact Metrics.get_recordError _ _

theorem course_answerCustom (r : Request) :
    Course .custom s (answerCustom backend r s) := by
  unfold answerCustom
  split
  · rename_i hcaller
    exact course_refuse (isEarly_of_caller hcaller) rfl rfl
  · split
    · rename_i hbody
      exact course_refuse (isEarly_of_payload hbody) rfl rfl
    · apply Course.of_count
      · exact course_runCustom hstore _ _
      · decide

omit hstore in
/-- A route that only looks at the service itself takes a quiet course. -/
theorem course_answer_of_status
    {response : Response} (hroute : route ≠ .compile)
    (hstatus : response.status = 200 ∨ response.status = 503) :
    Course route s (.answer s response) := by
  apply Course.quiet
  · exact ⟨rfl, rfl, rfl⟩
  · rcases hstatus with h | h
    · simp [Exchange.answer, h]
    · simp [Exchange.answer, h]
  · intro h
    exact absurd h hroute
  · rfl

omit hstore in
theorem probeStatus_cases (passes : Bool) :
    probeStatus passes = 200 ∨ probeStatus passes = 503 := by
  cases passes <;> simp [probeStatus]

/-- The answer of a route takes one of the four courses. -/
theorem course_answer (route : Route) (arrival : Arrival) (r : Request) :
    Course route s (route.answer backend arrival r s) := by
  cases route with
  | query => exact course_answerQuery hstore arrival r
  | compile => exact course_answerCompile r
  | custom => exact course_answerCustom hstore r
  | types => exact course_answer_of_status (by decide) (Or.inl rfl)
  | health =>
      exact course_answer_of_status (by decide) (probeStatus_cases s.health.status.isServing)
  | ready => exact course_answer_of_status (by decide) (probeStatus_cases s.health.isReady)
  | live => exact course_answer_of_status (by decide) (probeStatus_cases s.health.isAlive)

end Courses

/-! ## The passage of a request -/

/-- A request for what a route gives, by its path and its method. -/
def Request.AsksFor (r : Request) (route : Route) : Prop :=
  Route.ofPath? r.path = some route ∧ route.takes r = true

/-- A request asks for what one route gives, that of its path. -/
theorem Request.AsksFor.unique
    {r : Request} {route route' : Route} (h : r.AsksFor route)
    (h' : Route.ofPath? r.path = some route') :
    route = route' := by
  have hpath := h.1
  rw [h'] at hpath
  cases hpath
  rfl

/-- What happens to a request. -/
inductive Passage (r : Request) (s : State) (e : Exchange) : Prop
  /-- The caller asks too often. -/
  | limited
      (quiet : e.IsQuiet s)
      (status : e.response.status = 429)
      (metrics : e.state.metrics = s.metrics.count .rateLimitedRequests)
  /-- No route gives what the request asks for, or a browser asks what it may send. -/
  | unanswered
      (route : ∀ route, ¬ r.AsksFor route)
      (quiet : e.IsQuiet s)
      (status : e.response.status = 200 ∨ e.response.status = 404 ∨ e.response.status = 405)
      (metrics : e.state.metrics = s.metrics)
  | answered
      (route : Route)
      (asked : r.AsksFor route)
      (course : Course route s e)

section Passages

variable {route : Route} {r : Request} {s : State} {e : Exchange}

/-- No route takes the method by which browsers ask what they may send. -/
theorem takes_eq_false_of_options
    (h : r.method = "OPTIONS") (route : Route) : route.takes r = false := by
  unfold Route.takes
  rw [h]
  cases route <;> decide

theorem Exchange.IsQuiet.mapResponse
    {f : Response → Response} (h : e.IsQuiet s) :
    (e.mapResponse f).IsQuiet s :=
  ⟨h.calls, h.answers, h.domains⟩

theorem Course.mapResponse
    {f : Response → Response} (hf : ∀ response, (f response).status = response.status)
    (h : Course route s e) :
    Course route s (e.mapResponse f) := by
  have hstatus : (e.mapResponse f).response.status = e.response.status := hf e.response
  cases h with
  | quiet quiet status shown compiled =>
      exact Course.quiet quiet.mapResponse (by rwa [hstatus]) (by rwa [hstatus]) compiled
  | previewed route quiet status compiled =>
      exact Course.previewed route quiet.mapResponse (hstatus.trans status) compiled
  | served route status compiled => exact Course.served route (hstatus.trans status) compiled
  | failed route status call compiled =>
      exact Course.failed route (hstatus.trans status) call compiled

theorem Passage.mapResponse
    {f : Response → Response} (hf : ∀ response, (f response).status = response.status)
    (h : Passage r s e) :
    Passage r s (e.mapResponse f) := by
  have hstatus : (e.mapResponse f).response.status = e.response.status := hf e.response
  cases h with
  | limited quiet status metrics =>
      exact Passage.limited quiet.mapResponse (hstatus.trans status) metrics
  | unanswered route quiet status metrics =>
      exact Passage.unanswered route quiet.mapResponse (by rwa [hstatus]) metrics
  | answered route asked course =>
      exact Passage.answered route asked (course.mapResponse hf)

theorem status_shape (route : Route) (r : Request) (response : Response) :
    (route.shape r response).status = response.status := by
  unfold Route.shape
  split
  · rfl
  · split <;> rfl

variable {backend : Backend} (hstore : backend.store.FailsInExecution) (arrival : Arrival)

include hstore

/-- A route may be reached in a state that differs by a token that was taken. -/
theorem passage_dispatch
    (hpath : Route.ofPath? r.path = some route) {s' : State}
    (hdomains : s'.domains = s.domains) (hmetrics : s'.metrics = s.metrics) :
    Passage r s (route.dispatch backend arrival r s') := by
  unfold Route.dispatch
  split
  · rename_i htakes
    apply Passage.answered route ⟨hpath, htakes⟩
    apply (course_answer hstore route arrival r).of_state hdomains
    rw [State.compiled, State.compiled, hmetrics]
  · rename_i htakes
    apply Passage.unanswered
    · rintro route' ⟨hpath', htakes'⟩
      rw [hpath] at hpath'
      cases hpath'
      exact htakes htakes'
    · exact ⟨rfl, rfl, hdomains⟩
    · exact Or.inr (Or.inr rfl)
    · exact hmetrics

theorem passage_limited (hpath : Route.ofPath? r.path = some route) :
    Passage r s (route.limited backend arrival r s) := by
  unfold Route.limited
  split
  · cases hverdict : (s.limiter.check arrival.now r.rateKey).1 with
    | allowed =>
        simp only [hverdict]
        exact passage_dispatch hstore arrival hpath rfl rfl
    | rejected retryAfter =>
        simp only [hverdict]
        exact Passage.limited ⟨rfl, rfl, rfl⟩ rfl rfl
  · exact passage_dispatch hstore arrival hpath rfl rfl

/-- What the service does with a request. -/
theorem passage_handle (r : Request) (s : State) :
    Passage r s (handle backend arrival r s) := by
  unfold handle
  apply Passage.mapResponse (f := allowOrigin) (fun _ => rfl)
  split
  · rename_i hoptions
    apply Passage.unanswered
    · rintro route ⟨-, htakes⟩
      rw [takes_eq_false_of_options (beq_iff_eq.mp hoptions)] at htakes
      cases htakes
    · exact ⟨rfl, rfl, rfl⟩
    · exact Or.inl rfl
    · rfl
  · split
    · rename_i hpath
      apply Passage.unanswered
      · rintro route ⟨hpath', -⟩
        rw [hpath] at hpath'
        cases hpath'
      · exact ⟨rfl, rfl, rfl⟩
      · exact Or.inr (Or.inl rfl)
      · rfl
    · rename_i route hpath
      exact (passage_limited hstore arrival hpath).mapResponse (status_shape route r)

end Passages

/-! ## A free query in a service whose store is down -/

/-- The first moment of a year. -/
def newYear : Arrival where
  now := 0
  today := ⟨2024, 1, 1, by decide⟩

theorem failsInExecution_down : downBackend.store.FailsInExecution := by
  intro q e h
  cases h
  rfl

/-- A request to run a free query for the number of payments. -/
def paymentsRun : Request :=
  paymentsRequest "/query/custom"
    "\x7b\"query\":\x7b\"table\":\"revenue\",\"selects\":[\x7b\"field\":\"*\",\"aggregate\":\"count\"\x7d]\x7d,\"startDate\":\"2024-01-01\",\"endDate\":\"2024-01-31\",\"limit\":0\x7d"

/-- What the service does with the free query for payments when it comes first. -/
def failedPayments : Exchange :=
  handle downBackend newYear paymentsRun (.start .standard)

theorem failedPayments_eq :
    failedPayments.response.status = 502 ∧ failedPayments.calls.length = 1 ∧
      failedPayments.state.compiled = 0 := by
  decide +kernel

end Service
end AnalyticsQuery
