import AnalyticsQuery.Proofs.Catalog.Builtin
import AnalyticsQuery.Proofs.Engine.ParameterIsolation

/-!
# What can go wrong with a parameter

The engine of the analytics store has a sound catalog.  A parameter gives no
query for three reasons only: no entry has its name, its entry does not permit a
filter of the request, or the checks refuse what the request itself brings.  What
gives a query can only fail in the store.

* `Refusal`: the three reasons.
* `refusal_of_compileParameter`: what the engine says of a parameter that gives
  no query is one of them.
* `faults_of_builtin`: the verdict on everything that the catalog resolves, and
  the failed items of every run.
-/

namespace AnalyticsQuery

theorem BatchItem.eq_failed_of_ofResult
    {parameter : String} {r : Except Error (List Row)}
    (h : (BatchItem.ofResult parameter r).success = false) :
    ∃ e, r = .error e ∧ BatchItem.ofResult parameter r = BatchItem.failed parameter e := by
  cases r with
  | ok rows => cases h
  | error e => exact ⟨e, rfl, rfl⟩

namespace Catalog

/-- What the built-in catalog resolves can only be wrong by what the request brings. -/
theorem verdict_resolve
    {id : String} {wanted : Customization} {config : Config}
    (h : builtin.resolve Schema.registry id wanted = .ok config) :
    ∃ table, Schema.registry.table? config.table = some table ∧
      Verdict table wanted.filters (config.validate Schema.registry) := by
  rw [resolve] at h
  cases hentry : builtin.get? id with
  | none => simp [hentry] at h
  | some entry =>
      rw [hentry] at h
      exact verdict_resolveEntry (isSoundIn_of_get? hentry wanted.context).1 h

/-- An entry refuses nothing but a filter that it does not permit. -/
theorem exists_of_resolveEntry_eq_error
    {registry : Registry} {entry : CatalogEntry} {wanted : Customization} {e : Error}
    (h : resolveEntry registry entry wanted = .error e) :
    ∃ f ∈ wanted.filters, entry.permits f.field = false ∧
      e = .filterNotPermitted entry.id f.field := by
  simp only [resolveEntry] at h
  split at h
  · cases h
  · split at h
    · rename_i f hfind
      cases h
      have hpermits := List.find?_some hfind
      exact ⟨f, List.mem_of_find?_eq_some hfind, by simpa using hpermits, rfl⟩
    · split at h
      · cases h
      · cases h

end Catalog

namespace Engine

/-- Why a parameter of a request with the given filters gives no query. -/
inductive Refusal (filters : List Filter) (parameter : String) : Error → Prop
  | unknown :
      Catalog.builtin.get? parameter = none →
        Refusal filters parameter (.unknownQueryType parameter)
  | notPermitted {entry : CatalogEntry} {f : Filter} :
      Catalog.builtin.get? parameter = some entry → f ∈ filters →
        entry.permits f.field = false →
          Refusal filters parameter (.filterNotPermitted parameter f.field)
  | invalid {name : String} {table : Table} {reason : ValidationError} :
      Schema.registry.table? name = some table →
        Catalog.Verdict table filters (.error reason) →
          Refusal filters parameter (.validation reason)

/-- Nine of the twelve rules are never broken. -/
theorem Refusal.kind_mem
    {filters : List Filter} {parameter : String} {reason : ValidationError}
    (h : Refusal filters parameter (.validation reason)) :
    reason.kind ∈
      [ValidationKind.tooManyFilters, .tooManyGroupBy, .invalidFilterValue] := by
  cases h with
  | invalid htable hverdict =>
      cases hverdict with
      | tooManyFilters => simp [ValidationError.tooManyFilters]
      | tooManyGroupBy => simp [ValidationError.tooManyGroupBy]
      | invalidValue hmem hcheck hkind => simp [hkind]

variable {store : Store} {tenant : Tenant} {request : BatchRequest} {domain : Option String}
  {parameter : String}

theorem refusal_of_compileParameter
    {e : Error} (h : builtin.compileParameter request tenant domain parameter = .error e) :
    Refusal request.filters parameter e := by
  simp only [compileParameter] at h
  split at h
  · rename_i e' hresolve
    cases h
    simp only [builtin, Catalog.resolve] at hresolve
    split at hresolve
    · rename_i hentry
      cases hresolve
      exact Refusal.unknown hentry
    · rename_i entry hentry
      obtain ⟨f, hf, hpermits, he⟩ := Catalog.exists_of_resolveEntry_eq_error hresolve
      have hid := (Catalog.isSoundIn_of_get? hentry (contextOf request domain)).2
      rw [he, hid]
      exact Refusal.notPermitted hentry hf hpermits
  · rename_i config hresolve
    obtain ⟨reason, he, hinvalid⟩ := Config.compileValid_eq_error h
    obtain ⟨table, htable, hverdict⟩ := Catalog.verdict_resolve hresolve
    have hsame : config.validate Schema.registry = .error reason := hinvalid
    rw [hsame] at hverdict
    rw [he]
    exact Refusal.invalid htable hverdict

/-- A parameter fails for one of the three reasons, or by its query in the store. -/
theorem fault_of_runParameter
    (h : (builtin.runParameter store request tenant domain parameter).result.success = false) :
    ∃ e, (builtin.runParameter store request tenant domain parameter).result =
        BatchItem.failed parameter e ∧
      (Refusal request.filters parameter e ∨
        ∃ q ∈ (builtin.runParameter store request tenant domain parameter).calls,
          store q = .error e) := by
  obtain ⟨e, hresult, hitem⟩ := BatchItem.eq_failed_of_ofResult h
  refine ⟨e, hitem, ?_⟩
  cases hcompile : builtin.compileParameter request tenant domain parameter with
  | error e' =>
      rw [hcompile] at hresult
      cases hresult
      exact Or.inl (refusal_of_compileParameter hcompile)
  | ok q =>
      rw [hcompile] at hresult
      refine Or.inr ⟨q, ?_, hresult⟩
      rw [runParameter, hcompile]
      exact List.mem_singleton_self q

/-- What the built-in catalog resolves passes the checks, or there are too many filters or group
keys, or a filter of the request has a wrong value: no other rule is broken by a parameter.  An item
of an answer can only have failed because no entry has its name, its entry does not permit a filter,
the checks say one of these three things, or the store failed on its query. -/
theorem faults_of_builtin :
    (∀ id wanted config, Catalog.builtin.resolve Schema.registry id wanted = .ok config →
      ∃ table, Schema.registry.table? config.table = some table ∧
        Catalog.Verdict table wanted.filters (config.validate Schema.registry)) ∧
    (∀ request tenant domain parameter reason,
      builtin.compileParameter request tenant domain parameter = .error (.validation reason) →
        reason.kind ∈
          [ValidationKind.tooManyFilters, .tooManyGroupBy, .invalidFilterValue]) ∧
    ∀ (store : Store) (tenant : Tenant) (request : BatchRequest) {σ : Type}
      (directory : Directory σ) (s : σ) (response : BatchResponse),
      (builtin.run store directory tenant request s).1.result = .ok response →
      ∀ i ∈ response.data, i.success = false →
        ∃ e, i = BatchItem.failed i.parameter e ∧
          (Refusal request.filters i.parameter e ∨
            ∃ q ∈ (builtin.run store directory tenant request s).1.calls,
              store q = .error e) := by
  refine ⟨?_, ?_, ?_⟩
  · intro id wanted config h
    exact Catalog.verdict_resolve h
  · intro request tenant domain parameter reason h
    exact (refusal_of_compileParameter h).kind_mem
  · intro store tenant request σ directory s response hresponse i hi hfailed
    cases hshape : request.hasShape with
    | false => simp [run, hshape] at hresponse
    | true =>
        rw [run_of_hasShape (h := hshape)] at hresponse ⊢
        cases hresponse
        obtain ⟨executed, hexecuted, rfl⟩ := List.mem_map.mp hi
        obtain ⟨parameter, hparameter, rfl⟩ := List.mem_map.mp hexecuted
        obtain ⟨e, hitem, hfault⟩ := fault_of_runParameter hfailed
        have hname := builtin.parameter_runParameter store tenant request
          ((directory tenant.websiteId s).1.bind Website.bareHost?) parameter
        rw [hname]
        refine ⟨e, hitem, ?_⟩
        rcases hfault with hrefusal | ⟨q, hq, hstore⟩
        · exact Or.inl hrefusal
        · exact Or.inr ⟨q, List.mem_flatMap.mpr ⟨_, hexecuted, hq⟩, hstore⟩

/-- A request that orders countries, which only numbers and moments are. -/
def orderedRequest : BatchRequest where
  id := none
  parameters := ["top_pages", "no_such_parameter"]
  filters := [⟨"country", .gt, .scalar (.text "DE")⟩]
  granularity := none
  groupBy := []
  limit := none
  page := none

/-- Both parameters fail, the one by the value of its filter and the other by its name. -/
theorem faults_of_orderedRequest :
    (∃ config table,
      Catalog.builtin.resolve Schema.registry "top_pages"
        ⟨⟨.day, none⟩, orderedRequest.filters, []⟩ = .ok config ∧
      Catalog.Verdict table orderedRequest.filters (config.validate Schema.registry)) ∧
    (∃ reason,
      builtin.compileParameter orderedRequest visitsTenant none "top_pages" =
        .error (.validation reason) ∧
      reason.kind ∈
        [ValidationKind.tooManyFilters, .tooManyGroupBy, .invalidFilterValue]) ∧
    ∃ response,
      (builtin.run (fun _ => .ok []) (fun _ (asked : Nat) => (none, asked + 1)) visitsTenant
        orderedRequest 0).1.result = .ok response ∧
      response.data.map BatchItem.success = [false, false] ∧
      ∀ i ∈ response.data, i.success = false → ∃ e, i = BatchItem.failed i.parameter e ∧
        Refusal orderedRequest.filters i.parameter e := by
  obtain ⟨hverdict, hkind, hitems⟩ := faults_of_builtin
  refine ⟨?_, ?_, ?_⟩
  · have hresolve :
        ∃ config, Catalog.builtin.resolve Schema.registry "top_pages"
          ⟨⟨.day, none⟩, orderedRequest.filters, []⟩ = .ok config := ⟨_, rfl⟩
    obtain ⟨config, hconfig⟩ := hresolve
    obtain ⟨table, -, hchecks⟩ := hverdict _ _ _ hconfig
    exact ⟨config, table, hconfig, hchecks⟩
  · have hcompile :
        ∃ reason, builtin.compileParameter orderedRequest visitsTenant none "top_pages" =
          .error (.validation reason) := ⟨_, rfl⟩
    obtain ⟨reason, hreason⟩ := hcompile
    exact ⟨reason, hreason, hkind _ _ _ _ _ hreason⟩
  · refine ⟨_, rfl, rfl, ?_⟩
    intro i hi hfailed
    obtain ⟨e, hitem, hrefusal | ⟨q, -, hq⟩⟩ :=
      hitems (fun _ => .ok []) visitsTenant orderedRequest
        (fun _ (asked : Nat) => (none, asked + 1)) 0 _ rfl i hi hfailed
    · exact ⟨e, hitem, hrefusal⟩
    · cases hq

end Engine
end AnalyticsQuery
