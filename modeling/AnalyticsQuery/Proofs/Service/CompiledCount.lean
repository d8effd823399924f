import AnalyticsQuery.Proofs.Service.Course

/-!
# What the counter of compiled queries counts

The service counts the queries that it compiles.  A query is compiled to be run,
and then the store is called with it, or to be shown as a preview.  The counter
grows by one for each of both.

There is one exception.  A free query that fails in the store was compiled and
called the store, but it is not counted, whereas a query of the catalog that
fails there is.  So over any history of requests the counter falls short of the
calls and previews by the number of free queries that failed.

* `compiled_handle`: the step, one request.
* `compiled_after`: the run, a history of requests.
* `compiled_short_of_failed`: histories from fresh counters.
* `compiled_misses_failedPayments`: the exception, next to its counterpart.
-/

namespace AnalyticsQuery
namespace Service

/-- A request with what the service works with when it arrives. -/
structure Visit where
  backend : Backend
  arrival : Arrival
  request : Request

/-- What a visit leads to. -/
def Visit.exchange (v : Visit) (s : State) : Exchange :=
  handle v.backend v.arrival v.request s

/-- The state after visits one after another. -/
def State.after : State → List Visit → State
  | s, [] => s
  | s, v :: rest => (v.exchange s).state.after rest

/-- A request with the exchange that it led to. -/
structure Entry where
  request : Request
  exchange : Exchange

/-- All exchanges of visits one after another. -/
def State.log : State → List Visit → List Entry
  | _, [] => []
  | s, v :: rest => ⟨v.request, v.exchange s⟩ :: (v.exchange s).state.log rest

namespace Entry

/-- Whether an entry is a successful preview of a query. -/
def IsPreview (x : Entry) : Prop :=
  x.request.AsksFor .compile ∧ x.exchange.response.status = 200

/-- Whether an entry is a free query that failed in the store. -/
def IsFailure (x : Entry) : Prop :=
  x.request.AsksFor .custom ∧ x.exchange.response.status = 502

instance (r : Request) (route : Route) : Decidable (r.AsksFor route) :=
  inferInstanceAs (Decidable (_ ∧ _))

instance : DecidablePred IsPreview := fun _ => inferInstanceAs (Decidable (_ ∧ _))

instance : DecidablePred IsFailure := fun _ => inferInstanceAs (Decidable (_ ∧ _))

end Entry

/-- The number of calls that the store received. -/
def callCount (log : List Entry) : Nat :=
  (log.flatMap fun x => x.exchange.calls).length

/-- The number of successful previews. -/
def previewCount (log : List Entry) : Nat :=
  log.countP fun x => x.IsPreview

/-- The number of free queries that failed in the store. -/
def failureCount (log : List Entry) : Nat :=
  log.countP fun x => x.IsFailure

/-! ## One request -/

section Step

variable {route : Route} {s : State} {x : Entry}

/-- The counter before and after a request, as far as its entry tells. -/
structure Entry.Reconciled (s : State) (x : Entry) : Prop where
  compiled : x.exchange.state.compiled + UInt64.ofNat (failureCount [x]) =
    s.compiled + UInt64.ofNat (callCount [x] + previewCount [x])
  failure_le : failureCount [x] ≤ callCount [x]

/-- What was neither shown nor failed in the store is counted as the store was called. -/
theorem Entry.reconciled_of_counted
    (hpreview : ¬ x.IsPreview) (hfailure : ¬ x.IsFailure)
    (h : x.exchange.state.compiled = s.compiled + UInt64.ofNat x.exchange.calls.length) :
    x.Reconciled s := by
  constructor
  · simp [failureCount, callCount, previewCount, hpreview, hfailure, h]
  · simp [failureCount, hfailure]

theorem Entry.reconciled_of_course
    (hasked : x.request.AsksFor route) (h : Course route s x.exchange) :
    x.Reconciled s := by
  cases h with
  | quiet quiet status shown compiled =>
      apply reconciled_of_counted
      · rintro ⟨hpath, hok⟩
        exact shown (hasked.unique hpath.1) hok
      · rintro ⟨-, hfailed⟩
        exact status.2 hfailed
      · simp [compiled, quiet.calls]
  | previewed route quiet status compiled =>
      subst route
      have hpreview : x.IsPreview := ⟨hasked, status⟩
      have hfailure : ¬ x.IsFailure := by
        rintro ⟨-, hfailed⟩
        simp [status] at hfailed
      constructor
      · simp [failureCount, callCount, previewCount, hpreview, hfailure, quiet.calls, compiled]
      · simp [failureCount, hfailure]
  | served route status compiled =>
      apply reconciled_of_counted
      · rintro ⟨hpath, -⟩
        have hsame := hasked.unique hpath.1
        subst hsame
        simp at route
      · rintro ⟨-, hfailed⟩
        simp [status] at hfailed
      · exact compiled
  | failed route status call compiled =>
      subst route
      have hfailure : x.IsFailure := ⟨hasked, status⟩
      have hpreview : ¬ x.IsPreview := by
        rintro ⟨-, hok⟩
        simp [status] at hok
      constructor
      · simp [failureCount, callCount, previewCount, hpreview, hfailure, call, compiled]
      · simp [failureCount, callCount, hfailure, call]

/-- The step: a free query that fails is the only call that is not counted. -/
theorem compiled_handle
    (v : Visit) (hstore : v.backend.store.FailsInExecution) (s : State) :
    Entry.Reconciled s ⟨v.request, v.exchange s⟩ := by
  have hpassage : Passage v.request s (v.exchange s) :=
    passage_handle hstore v.arrival v.request s
  cases hpassage with
  | limited quiet status metrics =>
      apply Entry.reconciled_of_counted
      · rintro ⟨-, hok⟩
        exact absurd (status.symm.trans hok) (by decide)
      · rintro ⟨-, hfailed⟩
        exact absurd (status.symm.trans hfailed) (by decide)
      · simp [State.compiled, metrics, Monitor.Metrics.count, quiet.calls]
  | unanswered route quiet status metrics =>
      apply Entry.reconciled_of_counted
      · rintro ⟨hasked, -⟩
        exact route .compile hasked
      · rintro ⟨hasked, -⟩
        exact route .custom hasked
      · simp [State.compiled, metrics, quiet.calls]
  | answered route asked course => exact Entry.reconciled_of_course asked course

end Step

/-! ## Histories of requests -/

theorem callCount_cons (x : Entry) (log : List Entry) :
    callCount (x :: log) = callCount [x] + callCount log := by
  simp [callCount]

theorem previewCount_cons (x : Entry) (log : List Entry) :
    previewCount (x :: log) = previewCount [x] + previewCount log := by
  simp [previewCount, List.countP_cons, Nat.add_comm]

theorem failureCount_cons (x : Entry) (log : List Entry) :
    failureCount (x :: log) = failureCount [x] + failureCount log := by
  simp [failureCount, List.countP_cons, Nat.add_comm]

section Histories

variable {visits : List Visit} (h : ∀ v ∈ visits, v.backend.store.FailsInExecution)

include h

/-- The run: the counter and the failures grow together as the calls and the previews do. -/
theorem compiled_after (s : State) :
    (s.after visits).compiled + UInt64.ofNat (failureCount (s.log visits)) =
      s.compiled +
        UInt64.ofNat (callCount (s.log visits) + previewCount (s.log visits)) := by
  induction visits generalizing s with
  | nil => simp [State.after, State.log, failureCount, callCount, previewCount]
  | cons v rest ih =>
      have hstep := (compiled_handle v (h v List.mem_cons_self) s).compiled
      have hrest := ih (fun v' hv' => h v' (List.mem_cons_of_mem v hv')) (v.exchange s).state
      simp only [State.after, State.log]
      rw [callCount_cons, previewCount_cons, failureCount_cons]
      simp only [UInt64.ofNat_add] at hstep hrest ⊢
      calc
        _ = ((v.exchange s).state.after rest).compiled +
              UInt64.ofNat (failureCount ((v.exchange s).state.log rest)) +
                UInt64.ofNat (failureCount [⟨v.request, v.exchange s⟩]) := by ac_rfl
        _ = (v.exchange s).state.compiled +
              UInt64.ofNat (failureCount [⟨v.request, v.exchange s⟩]) +
                (UInt64.ofNat (callCount ((v.exchange s).state.log rest)) +
                  UInt64.ofNat (previewCount ((v.exchange s).state.log rest))) := by
              rw [hrest]
              ac_rfl
        _ = _ := by
              rw [hstep]
              ac_rfl

theorem failureCount_le_callCount (s : State) :
    failureCount (s.log visits) ≤ callCount (s.log visits) := by
  induction visits generalizing s with
  | nil => simp [State.log, failureCount]
  | cons v rest ih =>
      have hstep := (compiled_handle v (h v List.mem_cons_self) s).failure_le
      have hrest := ih (fun v' hv' => h v' (List.mem_cons_of_mem v hv')) (v.exchange s).state
      rw [State.log, callCount_cons, failureCount_cons]
      exact Nat.add_le_add hstep hrest

end Histories

/-- From fresh counters the counter of compiled queries and the number of free queries that failed
in the store together give the number of calls and previews, in 64 bits; and so they do as numbers
as long as there are not too many of them. -/
theorem compiled_short_of_failed
    {visits : List Visit} (h : ∀ v ∈ visits, v.backend.store.FailsInExecution)
    {s : State} (hfresh : s.metrics.get .queriesCompiled = 0) :
    ((s.after visits).metrics.get .queriesCompiled + UInt64.ofNat (failureCount (s.log visits)) =
        UInt64.ofNat (callCount (s.log visits) + previewCount (s.log visits))) ∧
      (callCount (s.log visits) + previewCount (s.log visits) < UInt64.size →
        ((s.after visits).metrics.get .queriesCompiled).toNat + failureCount (s.log visits) =
          callCount (s.log visits) + previewCount (s.log visits)) := by
  have hcompiled := compiled_after h s
  simp only [State.compiled, hfresh, UInt64.zero_add] at hcompiled
  refine ⟨hcompiled, ?_⟩
  intro hfits
  have hle := failureCount_le_callCount h s
  have hword := ((s.after visits).metrics.get .queriesCompiled).toNat_lt
  have hnat := congrArg UInt64.toNat hcompiled
  simp only [UInt64.size] at hfits
  simp only [UInt64.toNat_add, UInt64.toNat_ofNat'] at hnat
  omega

/-- The free query for payments, in a service whose store is down. -/
def paymentsVisit : Visit := ⟨downBackend, newYear, paymentsRun⟩

/-- A query of the catalog for payments, in the same service. -/
def countriesVisit : Visit where
  backend := downBackend
  arrival := newYear
  request := paymentsRequest "/query" "\x7b\"parameters\":[\"revenue_by_country\"]\x7d"

theorem exchange_paymentsVisit : paymentsVisit.exchange (.start .standard) = failedPayments := by
  simp only [failedPayments, Visit.exchange, paymentsVisit]

theorem log_paymentsVisit :
    (State.start .standard).log [paymentsVisit] = [⟨paymentsRun, failedPayments⟩] := by
  simp only [State.log, exchange_paymentsVisit]
  rfl

theorem counted_countriesVisit :
    (countriesVisit.exchange (.start .standard)).calls.length = 1 ∧
      (countriesVisit.exchange (.start .standard)).state.metrics.get .queriesCompiled = 1 := by
  decide +kernel

theorem counts_failedPayments :
    callCount [⟨paymentsRun, failedPayments⟩] = 1 ∧
      previewCount [⟨paymentsRun, failedPayments⟩] = 0 ∧
      failureCount [⟨paymentsRun, failedPayments⟩] = 1 := by
  obtain ⟨hstatus, hlength, -⟩ := failedPayments_eq
  have hpreview : ¬ Entry.IsPreview ⟨paymentsRun, failedPayments⟩ := by
    rintro ⟨-, hok⟩
    simp [hstatus] at hok
  have hfailure : Entry.IsFailure ⟨paymentsRun, failedPayments⟩ :=
    ⟨⟨by decide +kernel, by decide +kernel⟩, hstatus⟩
  refine ⟨?_, ?_, ?_⟩
  · simp [callCount, hlength]
  · simp [previewCount, hpreview]
  · simp [failureCount, hfailure]

/-- After the free query has failed, the counter and the failures together give the one call. -/
theorem compiled_short_of_failedPayments :
    (∀ v ∈ [paymentsVisit], v.backend.store.FailsInExecution) ∧
      (State.start .standard).metrics.get .queriesCompiled = 0 ∧
      (((State.start .standard).after [paymentsVisit]).metrics.get .queriesCompiled).toNat + 1 =
        1 := by
  have hstore : ∀ v ∈ [paymentsVisit], v.backend.store.FailsInExecution := by
    intro v hv
    rw [List.mem_singleton.mp hv]
    exact failsInExecution_down
  obtain ⟨-, hnat⟩ := compiled_short_of_failed hstore (s := .start .standard) rfl
  obtain ⟨hcalls, hpreviews, hfailures⟩ := counts_failedPayments
  rw [log_paymentsVisit, hcalls, hpreviews, hfailures] at hnat
  exact ⟨hstore, rfl, hnat (by decide)⟩

/-- A free query that fails in the store has called it and is not counted.  A query of the catalog
that fails in the same store is. -/
theorem compiled_misses_failedPayments :
    downBackend.store.FailsInExecution ∧
      callCount ((State.start .standard).log [paymentsVisit]) = 1 ∧
      previewCount ((State.start .standard).log [paymentsVisit]) = 0 ∧
      ((State.start .standard).after [paymentsVisit]).metrics.get .queriesCompiled = 0 ∧
      callCount ((State.start .standard).log [countriesVisit]) = 1 ∧
      ((State.start .standard).after [countriesVisit]).metrics.get .queriesCompiled = 1 := by
  obtain ⟨hcalls, hpreviews, -⟩ := counts_failedPayments
  have huncounted := failedPayments_eq.2.2
  obtain ⟨hcalls', hcounted⟩ := counted_countriesVisit
  rw [State.compiled] at huncounted
  refine ⟨failsInExecution_down, ?_, ?_, ?_, ?_, ?_⟩
  · rw [log_paymentsVisit, hcalls]
  · rw [log_paymentsVisit, hpreviews]
  · rw [State.after, exchange_paymentsVisit, State.after, huncounted]
  · simp [State.log, callCount, hcalls']
  · rw [State.after, State.after, hcounted]

end Service
end AnalyticsQuery
