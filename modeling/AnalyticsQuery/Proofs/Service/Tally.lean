import AnalyticsQuery.Proofs.Engine.SlotIsolation
import AnalyticsQuery.Proofs.Query.Validation
import AnalyticsQuery.Service.Answer

/-!
# Compiled queries are counted as the store is called

An item of an answer is counted as a compiled query when it succeeded, and also
when it failed in the store.  A query that was not compiled fails for reasons of
its own, which a store does not give.  So as long as the store fails in
execution only, the counter of compiled queries grows by one for each call.

* `calls_runParameter`: the step, one parameter of a request.
* `calls_items`: the run, all parameters of a request.
* `tallied_run`, `tallied_of_mem_runSlots`, `tallied_all`: answers, the slots of
  a batch and whole batches.
-/

namespace AnalyticsQuery

/-- A store whose failures are all failures of execution. -/
def Store.FailsInExecution (store : Store) : Prop :=
  ∀ q e, store q = .error e → e.kind = .execution

/-! ## What is not compiled never reaches the store -/

theorem Tenant.kind_of_resolveTimezone
    {raw : Option String} {e : Error} (h : resolveTimezone raw = .error e) :
    e.kind = .request := by
  simp only [resolveTimezone] at h
  split at h
  · cases h
  · split at h
    · cases h
    · cases h
      rfl

theorem Config.kind_of_compileValid
    {registry : Registry} {config : Config} {scope : Scope} {e : Error}
    (h : config.compileValid registry scope = .error e) :
    e.kind = .validation := by
  obtain ⟨reason, rfl, -⟩ := Config.compileValid_eq_error h
  rfl

theorem Catalog.kind_of_resolve
    {catalog : Catalog} {registry : Registry} {id : String} {wanted : Customization} {e : Error}
    (h : catalog.resolve registry id wanted = .error e) :
    e.kind = .request := by
  unfold resolve at h
  split at h
  · cases h
    rfl
  · simp only [resolveEntry] at h
    split at h
    · cases h
    · split at h
      · cases h
        rfl
      · split at h
        · cases h
        · cases h

theorem CustomRequest.kind_of_scope
    {request : CustomRequest} {fallback : Option String} {e : Error}
    (h : request.scope fallback = .error e) :
    e.kind = .request := by
  unfold scope at h
  split at h
  · cases h
    rfl
  · split at h
    · rename_i hzone
      cases h
      exact Tenant.kind_of_resolveTimezone hzone
    · cases h

namespace Engine

variable {engine : Engine} {tenant : Tenant} {e : Error}

theorem kind_of_compileParameter
    {request : BatchRequest} {domain : Option String} {parameter : String}
    (h : engine.compileParameter request tenant domain parameter = .error e) :
    e.kind ≠ .execution := by
  simp only [compileParameter] at h
  split at h
  · rename_i hresolve
    cases h
    simp [Catalog.kind_of_resolve hresolve]
  · simp [Config.kind_of_compileValid h]

theorem kind_of_compileCustom
    {request : CustomRequest} {fallback : Option String}
    (h : engine.compileCustom request fallback = .error e) :
    e.kind ≠ .execution := by
  unfold compileCustom at h
  split at h
  · rename_i hscope
    cases h
    simp [CustomRequest.kind_of_scope hscope]
  · simp [Config.kind_of_compileValid h]

end Engine

/-! ## Items are counted as often as the store was called -/

open Monitor

/-- An item whose query was compiled, whether it failed in the store or not. -/
def BatchItem.WasCompiled (i : BatchItem) : Bool :=
  i.success || i.errorKind = some .execution

namespace Monitor.Metrics

theorem get_recordItem (m : Metrics) (i : BatchItem) :
    (m.recordItem i).get .queriesCompiled =
      m.get .queriesCompiled + UInt64.ofNat (if i.WasCompiled then 1 else 0) := by
  unfold recordItem BatchItem.WasCompiled
  cases hsuccess : i.success with
  | true => simp [count]
  | false =>
      by_cases hexecution : i.errorKind = some .execution
      · simp [hexecution, count]
      · simp only [hexecution, Bool.false_or, decide_false, Bool.false_eq_true, if_false]
        split <;> simp [count]

theorem get_foldl_recordItem (m : Metrics) (items : List BatchItem) :
    (items.foldl recordItem m).get .queriesCompiled =
      m.get .queriesCompiled + UInt64.ofNat (items.countP BatchItem.WasCompiled) := by
  induction items generalizing m with
  | nil => simp
  | cons i rest ih =>
      rw [List.foldl_cons, ih, get_recordItem, List.countP_cons, UInt64.add_assoc,
        ← UInt64.ofNat_add, Nat.add_comm]

theorem get_recordResponse (m : Metrics) (r : BatchResponse) :
    (m.recordResponse r).get .queriesCompiled =
      m.get .queriesCompiled + UInt64.ofNat (r.data.countP BatchItem.WasCompiled) := by
  rw [recordResponse, get_foldl_recordItem]
  simp

theorem get_recordError (m : Metrics) (e : Error) :
    (m.recordError e).get .queriesCompiled = m.get .queriesCompiled := by
  unfold recordError
  split <;> simp [count]

end Monitor.Metrics

/-- An outcome that counts one compiled query for each call of the store. -/
def Executed.Tallied (e : Executed (Except Error BatchResponse)) : Prop :=
  ∀ m : Metrics, (m.recordSlot e.result).get .queriesCompiled =
    m.get .queriesCompiled + UInt64.ofNat e.calls.length

theorem Executed.tallied_error (e : Error) : Tallied ⟨.error e, []⟩ := by
  intro m
  simp [Metrics.recordSlot]

/-- The counts of several outcomes add up to the number of all calls. -/
theorem Executed.tallied_all
    {slots : List (Executed (Except Error BatchResponse))} (h : ∀ e ∈ slots, e.Tallied)
    (m : Metrics) :
    ((all slots).result.foldl Metrics.recordSlot m).get .queriesCompiled =
      m.get .queriesCompiled + UInt64.ofNat (all slots).calls.length := by
  induction slots generalizing m with
  | nil => simp [all]
  | cons e rest ih =>
      have hfirst := h e List.mem_cons_self m
      have hrest := ih (fun e' he' => h e' (List.mem_cons_of_mem e he')) (m.recordSlot e.result)
      simp only [all, List.map_cons, List.foldl_cons, List.flatMap_cons,
        List.length_append] at hrest ⊢
      rw [hrest, hfirst, UInt64.add_assoc, ← UInt64.ofNat_add]

namespace Engine

variable (engine : Engine) {store : Store} (tenant : Tenant) (hstore : store.FailsInExecution)

include hstore

/-- A parameter calls the store once when its query was compiled, and else not at all. -/
theorem calls_runParameter
    (request : BatchRequest) (domain : Option String) (parameter : String) :
    (engine.runParameter store request tenant domain parameter).calls.length =
      if (engine.runParameter store request tenant domain parameter).result.WasCompiled then 1
      else 0 := by
  unfold runParameter
  cases hcompile : engine.compileParameter request tenant domain parameter with
  | error e =>
      have hkind := kind_of_compileParameter hcompile
      simp [Executed.ofCompiled, Executed.map, BatchItem.ofResult, BatchItem.failed,
        BatchItem.WasCompiled, hkind]
  | ok q =>
      cases hanswer : store q with
      | ok rows =>
          simp [Executed.ofCompiled, Executed.map, hanswer, BatchItem.ofResult, BatchItem.ok,
            BatchItem.WasCompiled]
      | error e =>
          have hkind := hstore q e hanswer
          simp [Executed.ofCompiled, Executed.map, hanswer, BatchItem.ofResult, BatchItem.failed,
            BatchItem.WasCompiled, hkind]

theorem calls_items
    (request : BatchRequest) (domain : Option String) (parameters : List String) :
    (engine.items store tenant request domain parameters).calls.length =
      (engine.items store tenant request domain parameters).result.countP
        BatchItem.WasCompiled := by
  induction parameters with
  | nil => rfl
  | cons p rest ih =>
      have hp := engine.calls_runParameter tenant hstore request domain p
      simp only [items, Executed.all, List.map_cons, List.flatMap_cons, List.length_append,
        List.countP_cons] at ih ⊢
      rw [ih, hp, Nat.add_comm]

variable {σ : Type} (directory : Directory σ)

theorem tallied_run (request : BatchRequest) (s : σ) :
    (engine.run store directory tenant request s).1.Tallied := by
  cases hshape : request.hasShape with
  | false =>
      rw [run_of_not_hasShape (h := hshape)]
      exact Executed.tallied_error _
  | true =>
      intro m
      rw [run_of_hasShape (h := hshape)]
      simp only [Executed.map, Metrics.recordSlot, Metrics.get_recordResponse]
      rw [engine.calls_items tenant hstore]

theorem tallied_runSlot (raw : Json) (s : σ) :
    (engine.runSlot store directory tenant raw s).1.Tallied := by
  unfold runSlot
  cases Json.decode BatchRequest.decoder raw with
  | error e => exact Executed.tallied_error _
  | ok request => exact engine.tallied_run tenant hstore directory request s

theorem tallied_of_mem_runSlots
    {requests : List Json} {s : σ} {e : Executed (Except Error BatchResponse)}
    (h : e ∈ (engine.runSlots store directory tenant requests s).1) :
    e.Tallied := by
  induction requests generalizing s with
  | nil => cases h
  | cons raw rest ih =>
      rcases List.mem_cons.mp h with rfl | h
      · exact engine.tallied_runSlot tenant hstore directory raw s
      · exact ih h

end Engine

end AnalyticsQuery
