import AnalyticsQuery.Proofs.Service.Course

/-!
# What a rejected request leaves behind

A response tells the caller how far the request came.  A request that is
rejected as faulty was stopped before the first question to the directory of
websites and before the first call of the store, and one that came too often
changed no counter but the one of such requests.  Only a free query can have
called the store without a success, and then it failed in that one call.  The
preview of a query and the list of the catalog never call the store.

* `guarded_handle`: all of this for every request in every state of the service.
-/

namespace AnalyticsQuery
namespace Service

/-- What was asked of others for a request, as far as its response tells. -/
structure Guarded (r : Request) (s : State) (e : Exchange) : Prop where
  /-- Nothing was asked for a rejected request, and the kept domains are as they were. -/
  rejected : 400 ≤ e.response.status → e.response.status < 500 → e.IsQuiet s
  /-- A request that comes too often is counted, and nothing else is. -/
  limited : e.response.status = 429 → e.state.metrics = s.metrics.count .rateLimitedRequests
  /-- Without a success, only a free query that fails in the store has called it. -/
  failed : e.calls ≠ [] → e.response.status ≠ 200 →
    r.AsksFor .custom ∧ e.response.status = 502 ∧ e.calls.length = 1
  /-- Two routes never call the store. -/
  shown : ∀ route, Route.ofPath? r.path = some route → route = .compile ∨ route = .types →
    e.calls = []

variable {route : Route} {r : Request} {s : State} {e : Exchange}

/-- An exchange for which nothing was asked is guarded, unless it reports too many requests. -/
theorem Guarded.of_isQuiet
    (h : e.IsQuiet s)
    (hlimited : e.response.status = 429 → e.state.metrics = s.metrics.count .rateLimitedRequests) :
    Guarded r s e where
  rejected := fun _ _ => h
  limited := hlimited
  failed := fun hcalls _ => absurd h.calls hcalls
  shown := fun _ _ _ => h.calls

theorem Guarded.of_course (hasked : r.AsksFor route) (h : Course route s e) : Guarded r s e := by
  cases h with
  | quiet quiet status shown compiled =>
      exact Guarded.of_isQuiet quiet fun h => absurd h status.1
  | previewed route quiet status compiled =>
      exact Guarded.of_isQuiet quiet fun h => by simp [status] at h
  | served route status compiled =>
      constructor
      · intro h
        simp [status] at h
      · intro h
        simp [status] at h
      · intro _ h
        exact absurd status h
      · intro route' hpath hshown
        have hsame := hasked.unique hpath
        subst hsame
        rcases route with rfl | rfl
        · simp at hshown
        · simp at hshown
  | failed route status call compiled =>
      subst route
      constructor
      · intro _ h
        simp [status] at h
      · intro h
        simp [status] at h
      · intro _ _
        exact ⟨hasked, status, call⟩
      · intro route' hpath hshown
        have hsame := hasked.unique hpath
        subst hsame
        simp at hshown

/-- Whatever state the service is in and whatever it is asked, its response tells truly what was
asked of the store and of the directory of websites, as long as the store fails in execution only. -/
theorem guarded_handle
    {backend : Backend} (hstore : backend.store.FailsInExecution)
    (arrival : Arrival) (r : Request) (s : State) :
    Guarded r s (handle backend arrival r s) := by
  cases passage_handle hstore arrival r s with
  | limited quiet status metrics => exact Guarded.of_isQuiet quiet fun _ => metrics
  | unanswered route quiet status metrics =>
      apply Guarded.of_isQuiet quiet
      intro h
      rcases status with status | status | status
      · simp [status] at h
      · simp [status] at h
      · simp [status] at h
  | answered route asked course => exact Guarded.of_course asked course

/-- A free query fails in the store with the one call that it makes.  Where no tokens are handed out
it calls nothing and is counted as one request too many. -/
theorem guarded_payments :
    downBackend.store.FailsInExecution ∧
      failedPayments.response.status = 502 ∧ failedPayments.calls.length = 1 ∧
      (handle downBackend newYear paymentsRun (.start ⟨1, 0⟩)).response.status = 429 ∧
      (handle downBackend newYear paymentsRun (.start ⟨1, 0⟩)).calls = [] ∧
      (handle downBackend newYear paymentsRun (.start ⟨1, 0⟩)).state.metrics =
        Monitor.Metrics.empty.count .rateLimitedRequests := by
  have hran : Guarded paymentsRun (.start .standard) failedPayments :=
    guarded_handle failsInExecution_down newYear paymentsRun (.start .standard)
  have hstopped := guarded_handle failsInExecution_down newYear paymentsRun (.start ⟨1, 0⟩)
  obtain ⟨hstatus, hlength, -⟩ := failedPayments_eq
  have hcalls : failedPayments.calls ≠ [] := by
    intro h
    simp [h] at hlength
  obtain ⟨-, hfailed, hcall⟩ := hran.failed hcalls (by simp [hstatus])
  have hlimited :
      (handle downBackend newYear paymentsRun (.start ⟨1, 0⟩)).response.status = 429 := by
    decide +kernel
  have hquiet := hstopped.rejected (by simp [hlimited]) (by simp [hlimited])
  exact ⟨failsInExecution_down, hfailed, hcall, hlimited, hquiet.calls,
    hstopped.limited hlimited⟩

end Service
end AnalyticsQuery
