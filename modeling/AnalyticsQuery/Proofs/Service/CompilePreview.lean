import AnalyticsQuery.Proofs.Engine.TenantScope
import AnalyticsQuery.Proofs.Schema.Registry
import AnalyticsQuery.Proofs.Service.Bodies
import AnalyticsQuery.Service.Dispatch

/-!
# The preview of a free query

A free query can be run, or compiled without being run.  The two routes read
bodies of different forms, look for faults in a different order and make the
scope of the query each in a way of its own.

The body of a preview lays the configuration out beside the data of its scope.
When it holds the data of a free query, the preview shows the text and the values
of the one query that the store receives when the free query is run.  Where it
shows none, the store receives none.

* `compiledResponse_injective`: a response tells apart the queries that it shows.
* `compileFlattened_eq_ok_iff`: both routes compile the same query, or none.
* `showsCall_of_payloads`: the two routes on bodies that are read as one free query.
* `compile_previews_custom`: a preview succeeds exactly when the run calls the
  store, and shows that call.
-/

namespace AnalyticsQuery

theorem Tenant.unlessBlank_of_not_isBlank
    {s : String} (h : Text.isBlank s = false) :
    unlessBlank (some s) = some s := by
  simp [unlessBlank, h]

theorem Tenant.unlessBlank_unlessBlank (s : Option String) :
    unlessBlank (unlessBlank s) = unlessBlank s := by
  simp [unlessBlank, Option.filter_filter]

theorem Error.status_ne_ok (e : Error) : e.status ≠ 200 := by
  unfold status
  cases e.kind <;> simp

/-- A registry has no table with the empty name. -/
theorem Config.table_ne_empty
    {tables : List Table} {registry : Registry} (h : Registry.ofTables tables = .ok registry)
    {config : Config} {scope : Scope} {q : CompiledQuery}
    (hcompile : config.compileValid registry scope = .ok q) :
    config.table.isEmpty = false := by
  obtain ⟨table, htable, -⟩ := Config.compile_eq_ok (Config.compileValid_eq_ok hcompile).2
  have hplain := Registry.isPlain_of_table? h htable
  cases hempty : config.table.isEmpty with
  | false => rfl
  | true =>
      rw [String.isEmpty_iff.mp hempty] at hplain
      cases hplain

namespace Service

theorem bindingJson_injective (b b' : Binding) (h : bindingJson b = bindingJson b') :
    b = b' := by
  cases b with
  | text s =>
      cases b' with
      | text s' =>
          cases h
          rfl
      | number n => cases h
      | texts l => cases h
  | number n =>
      cases b' with
      | text s => cases h
      | number n' =>
          cases h
          rfl
      | texts l => cases h
  | texts l =>
      cases b' with
      | text s => cases h
      | number n => cases h
      | texts l' =>
          simp only [bindingJson, Json.texts, Json.arr.injEq] at h
          rw [(List.map_inj_right (by simp)).mp h]

/-! ## The response to a preview -/

/-- The response that shows the text and the values of a compiled query. -/
def compiledResponse (sql : String) (params : Dict Binding) : Response :=
  .success [("sql", .str sql), ("params", .ofDict (params.map bindingJson))]

theorem success_compiledMembers (q : CompiledQuery) :
    Response.success (compiledMembers q) = compiledResponse q.sql q.params :=
  rfl

/-- A member of the body of a response. -/
def Response.member? (r : Response) (key : String) : Option Json :=
  r.body.bind (Json.get? key)

theorem Response.member?_success
    {members : List (String × Json)} (hkeys : ("success" :: members.map Prod.fst).Nodup)
    {key : String} {value : Json} (h : (key, value) ∈ members) :
    (Response.success members).member? key = some value := by
  have hmem : (key, value) ∈ ("success", Json.bool true) :: members :=
    List.mem_cons_of_mem _ h
  exact Dict.get?_ofList_of_mem hkeys hmem

theorem compiledResponse_injective
    {sql sql' : String} {params params' : Dict Binding}
    (h : compiledResponse sql params = compiledResponse sql' params') :
    sql = sql' ∧ params = params' := by
  have hmembers :
      ∀ (s : String) (p : Dict Binding),
        (compiledResponse s p).member? "sql" = some (.str s) ∧
          (compiledResponse s p).member? "params" = some (.ofDict (p.map bindingJson)) := by
    intro s p
    constructor
    · exact Response.member?_success (by simp) (by simp)
    · exact Response.member?_success (by simp) (by simp)
  have hsql := (hmembers sql params).1
  have hparams := (hmembers sql params).2
  rw [h, (hmembers sql' params').1] at hsql
  rw [h, (hmembers sql' params').2] at hparams
  constructor
  · cases hsql
    rfl
  · simp only [Option.some.injEq, Json.ofDict, Json.obj.injEq] at hparams
    exact (Dict.map_injective bindingJson_injective (Dict.eq_of_entries hparams)).symm

/-- A response that shows the one call of the store, or is no success when there is none. -/
structure ShowsCall (response : Response) (calls : List CompiledQuery) : Prop where
  shown : ∀ sql params, response = compiledResponse sql params ↔
    ∃ q, calls = [q] ∧ q.sql = sql ∧ q.params = params
  succeeded : response.status = 200 ↔ calls.length = 1

theorem showsCall_compiledResponse (q : CompiledQuery) :
    ShowsCall (compiledResponse q.sql q.params) [q] := by
  constructor
  · intro sql params
    constructor
    · intro heq
      obtain ⟨hsql, hparams⟩ := compiledResponse_injective heq
      exact ⟨q, rfl, hsql, hparams⟩
    · rintro ⟨q', hq', rfl, rfl⟩
      cases hq'
      rfl
  · exact ⟨fun _ => rfl, fun _ => rfl⟩

theorem showsCall_nil {response : Response} (h : response.status ≠ 200) :
    ShowsCall response [] := by
  constructor
  · intro sql params
    constructor
    · intro heq
      rw [heq] at h
      exact absurd rfl h
    · rintro ⟨q, hq, -⟩
      cases hq
  · simp [h]

theorem Refusal.status_response (r : Refusal) : r.response.status = r.status := by
  unfold Refusal.response
  cases r.retryAfter <;> rfl

/-! ## The scope of both routes -/

/-- The body of a preview that holds the data of a free query. -/
def flattened (request : CustomRequest) (offset : Option UInt32) : CompileRequest where
  websiteId := request.websiteId
  config := request.query
  startDate := request.startDate
  endDate := request.endDate
  timezone := request.timezone
  limit := request.limit
  offset := offset

section Routes

variable {request : CustomRequest} {offset : Option UInt32}

/-- One route leaves a blank website out before it falls back to that of the caller, the other one
afterwards. -/
theorem website_flattened
    (hwebsite : ∀ id, request.websiteId = some id → Text.isBlank id = false) (caller : Caller) :
    (Tenant.unlessBlank request.websiteId <|> caller.websiteId) =
      Tenant.unlessBlank (request.websiteId <|> caller.websiteId) := by
  cases hid : request.websiteId with
  | none => exact (Tenant.unlessBlank_unlessBlank caller.params.websiteId).symm
  | some id =>
      have hown := Tenant.unlessBlank_of_not_isBlank (hwebsite id hid)
      rw [hown]
      exact hown.symm

theorem scope_flattened
    (hoffset : offset.getD 0 = 0)
    (hwebsite : ∀ id, request.websiteId = some id → Text.isBlank id = false)
    (htable : request.query.table.isEmpty = false) (caller : Caller) (scope : Scope) :
    (flattened request offset).scope caller = .ok scope ↔
      (withTimezoneOf caller request).scope caller.websiteId = .ok scope := by
  have hid := website_flattened hwebsite caller
  simp only [CompileRequest.scope, CustomRequest.scope, flattened, withTimezoneOf, htable, hid]
  cases Tenant.unlessBlank (request.websiteId <|> caller.websiteId) with
  | none => simp
  | some websiteId =>
      cases Tenant.resolveTimezone (request.timezone <|> caller.timezone) with
      | error e => simp
      | ok timezone => simp [CompileRequest.wantedLimit, CustomRequest.wantedLimit, hoffset]

/-- Both routes compile the same query, or none.  Only a preview refuses an empty name of a table
beforehand, but no registry has a table of that name. -/
theorem compileFlattened_eq_ok_iff
    {engine : Engine} {tables : List Table}
    (hregistry : Registry.ofTables tables = .ok engine.registry)
    (hoffset : offset.getD 0 = 0)
    (hwebsite : ∀ id, request.websiteId = some id → Text.isBlank id = false)
    (caller : Caller) (q : CompiledQuery) :
    (∃ scope, (flattened request offset).scope caller = .ok scope ∧
        request.query.compileValid engine.registry scope = .ok q) ↔
      engine.compileCustom (withTimezoneOf caller request) caller.websiteId = .ok q := by
  constructor
  · rintro ⟨scope, hscope, hcompile⟩
    have htable := Config.table_ne_empty hregistry hcompile
    rw [scope_flattened hoffset hwebsite htable] at hscope
    rw [Engine.compileCustom, hscope]
    exact hcompile
  · intro h
    unfold Engine.compileCustom at h
    split at h
    · cases h
    · rename_i scope hscope
      have htable := Config.table_ne_empty hregistry h
      exact ⟨scope, (scope_flattened hoffset hwebsite htable caller scope).mpr hscope, h⟩

/-! ## The two routes -/

variable (backend : Backend) (caller : Caller) (s : State)

theorem status_of_scope_eq_error
    {preview : CompileRequest} {caller : Caller} {r : Refusal}
    (h : preview.scope caller = .error r) :
    r.status ≠ 200 := by
  unfold CompileRequest.scope at h
  split at h
  · cases h
    simp [Refusal.badRequest]
  · split at h
    · cases h
      simp [Refusal.badRequest]
    · split at h
      · cases h
        exact Error.status_ne_ok _
      · cases h

/-- A preview shows the query that it compiles, and is refused when there is none. -/
theorem response_runCompile (preview : CompileRequest) :
    (∃ scope q, preview.scope caller = .ok scope ∧
      preview.config.compileValid backend.engine.registry scope = .ok q ∧
      (runCompile backend caller preview s).response = compiledResponse q.sql q.params) ∨
    ((∀ scope q, preview.scope caller = .ok scope →
        preview.config.compileValid backend.engine.registry scope ≠ .ok q) ∧
      (runCompile backend caller preview s).response.status ≠ 200) := by
  cases hscope : preview.scope caller with
  | error r =>
      right
      constructor
      · intro scope q h
        cases h
      · simp only [runCompile, hscope, Exchange.refuse, Exchange.answer,
          Refusal.status_response]
        exact status_of_scope_eq_error hscope
  | ok scope =>
      cases hcompile : preview.config.compileValid backend.engine.registry scope with
      | error e =>
          right
          constructor
          · intro scope' q h
            cases h
            simp [hcompile]
          · simp only [runCompile, hscope, hcompile, Exchange.refuse, Exchange.answer,
              Refusal.status_response]
            exact Error.status_ne_ok e
      | ok q =>
          left
          refine ⟨scope, q, rfl, hcompile, ?_⟩
          simp only [runCompile, hscope, hcompile, Exchange.answer, success_compiledMembers]

theorem calls_runCustom :
    (runCustom backend caller request s).calls =
      (backend.engine.compileCustom (withTimezoneOf caller request)
        caller.websiteId).toOption.toList := by
  unfold runCustom Engine.executeCustom
  cases backend.engine.compileCustom (withTimezoneOf caller request) caller.websiteId with
  | error e => rfl
  | ok q =>
      simp only [Executed.ofCompiled]
      cases backend.store q with
      | error e => rfl
      | ok rows => rfl

theorem calls_answerCustom
    {run : Request} {caller : Caller} (hcaller : Caller.ofRequest run = .ok caller)
    (hbody : run.payload CustomRequest.decoder = .ok request) (arrival : Arrival) :
    (Route.custom.answer backend arrival run s).calls =
      (backend.engine.compileCustom (withTimezoneOf caller request)
        caller.websiteId).toOption.toList := by
  simp only [Route.answer, answerCustom, hcaller, hbody, calls_runCustom]

/-- A request for a preview and one that runs the same free query: the body of the preview lays the
configuration out beside its scope. -/
structure Previews (preview run : Request) (request : CustomRequest) : Prop where
  sameQuery : preview.query = run.query
  sameTimezone :
    Request.header? preview.headers Caller.timezoneHeader =
      Request.header? run.headers Caller.timezoneHeader
  previewBody : ∃ (offset : Option UInt32) (shown : String → Bool), offset.getD 0 = 0 ∧
    preview.Carries ((flattened request offset).jsonShowing shown)
  runBody : ∃ shown : String → Bool, run.Carries (request.jsonShowing shown)
  website : ∀ id, request.websiteId = some id → Text.isBlank id = false

/-- Both requests have the same caller. -/
theorem Previews.sameCaller {preview run : Request} (h : Previews preview run request) :
    Caller.ofRequest preview = Caller.ofRequest run := by
  simp only [Caller.ofRequest, h.sameQuery, h.sameTimezone]

end Routes

/-- A refusal of the caller is no success. -/
theorem status_of_caller_eq_error
    {r : Request} {refusal : Refusal} (h : Caller.ofRequest r = .error refusal) :
    refusal.status ≠ 200 := by
  unfold Caller.ofRequest at h
  split at h
  · cases h
    simp [Refusal.badRequest]
  · cases h

/-- Two requests of one caller are answered alike once their bodies are read as one free query,
however they are written. -/
theorem showsCall_of_payloads
    {backend : Backend} {tables : List Table}
    (hregistry : Registry.ofTables tables = .ok backend.engine.registry)
    {preview run : Request} (hcallers : Caller.ofRequest preview = Caller.ofRequest run)
    {request : CustomRequest} (hrun : run.payload CustomRequest.decoder = .ok request)
    {offset : Option UInt32} (hoffset : offset.getD 0 = 0)
    (hpreview : preview.payload CompileRequest.decoder = .ok (flattened request offset))
    (hwebsite : ∀ id, request.websiteId = some id → Text.isBlank id = false)
    (arrival arrival' : Arrival) (s s' : State) :
    ShowsCall (Route.compile.answer backend arrival preview s).response
      (Route.custom.answer backend arrival' run s').calls := by
  simp only [Route.answer, answerCompile, answerCustom, hcallers, hpreview, hrun]
  cases hcaller : Caller.ofRequest run with
  | error refusal =>
      apply showsCall_nil
      simp only [Exchange.refuse, Exchange.answer, Refusal.status_response]
      exact status_of_caller_eq_error hcaller
  | ok caller =>
      have hsame := compileFlattened_eq_ok_iff hregistry hoffset hwebsite caller
      simp only [calls_runCustom]
      rcases response_runCompile backend caller (s.count .compileRequests)
          (flattened request offset) with
        ⟨scope, q, hscope, hcompile, hresponse⟩ | ⟨hnone, hstatus⟩
      · rw [hresponse, (hsame q).mp ⟨scope, hscope, hcompile⟩]
        exact showsCall_compiledResponse q
      · cases hcall : backend.engine.compileCustom (withTimezoneOf caller request)
            caller.websiteId with
        | error e => exact showsCall_nil hstatus
        | ok q =>
            obtain ⟨scope, hscope, hcompile⟩ := (hsame q).mpr hcall
            exact absurd hcompile (hnone scope q hscope)

/-- A preview succeeds exactly when the store receives a query as the free query is run.  Then it is
the only one, and the preview shows its text and its values and no others. -/
theorem compile_previews_custom
    {backend : Backend} {tables : List Table}
    (hregistry : Registry.ofTables tables = .ok backend.engine.registry)
    {preview run : Request} {request : CustomRequest} (h : Previews preview run request)
    (arrival arrival' : Arrival) (s s' : State) :
    ShowsCall (Route.compile.answer backend arrival preview s).response
      (Route.custom.answer backend arrival' run s').calls := by
  obtain ⟨offset, shown, hoffset, hflat⟩ := h.previewBody
  obtain ⟨shown', hbody⟩ := h.runBody
  have hpreview : preview.payload CompileRequest.decoder = .ok (flattened request offset) :=
    Request.payload_of_carries (CompileRequest.readsBack shown) (by decide) hflat
  have hrun : run.payload CustomRequest.decoder = .ok request :=
    Request.payload_of_carries (CustomRequest.readsBack shown') (by decide) hbody
  exact showsCall_of_payloads hregistry h.sameCaller hrun hoffset hpreview h.website
    arrival arrival' s s'

/-- A service whose store is down. -/
def downBackend : Backend where
  engine := Engine.builtin
  store := fun _ => .error (.execution "down")
  ask := fun _ => .ok none

/-- A free query for the payments of each day in each country, with every member set. -/
def salesQuery : CustomRequest where
  query :=
    { table := "revenue"
      selects := [⟨"*", .count, some "payments"⟩, ⟨"amount", .sum, none⟩]
      filters :=
        [ ⟨"provider", .notIn, .list [.text "paddle", .number (.ofUInt32 7)]⟩,
          ⟨"amount", .gte, .scalar (.number (.ofUInt32 100))⟩ ]
      groupBy := ["country"]
      timeBucket := some .day }
  websiteId := some "site_2"
  startDate := "2024-01-01"
  endDate := "2024-01-31"
  timezone := some "Europe/Vienna"
  limit := some 25

/-- A request of a caller in Berlin. -/
def paymentsRequest (path body : String) : Request where
  method := "POST"
  path := path
  query := some "website_id=site_1".toList
  headers := [("content-type", "application/json"), ("x-timezone", "Europe/Berlin")]
  body := body

def salesRun : Request :=
  paymentsRequest "/query/custom"
    "\x7b\"startDate\": \"2024-01-01\", \"endDate\": \"2024-01-31\", \"limit\": 25,
      \"websiteId\": \"site_2\", \"timezone\": \"Europe/Vienna\",
      \"query\": \x7b\"table\": \"revenue\", \"timeBucket\": \"day\", \"groupBy\": [\"country\"],
        \"selects\": [\x7b\"field\": \"*\", \"aggregate\": \"count\", \"alias\": \"payments\"\x7d,
          \x7b\"field\": \"amount\", \"aggregate\": \"sum\"\x7d],
        \"filters\": [
          \x7b\"field\": \"provider\", \"operator\": \"not_in\", \"value\": [\"paddle\", 7]\x7d,
          \x7b\"field\": \"amount\", \"operator\": \"gte\", \"value\": 100\x7d]\x7d\x7d"

def salesPreview : Request :=
  paymentsRequest "/query/compile"
    "\x7b\"table\": \"revenue\", \"startDate\": \"2024-01-01\", \"endDate\": \"2024-01-31\",
      \"selects\": [\x7b\"field\": \"*\", \"aggregate\": \"count\", \"alias\": \"payments\"\x7d,
        \x7b\"field\": \"amount\", \"aggregate\": \"sum\"\x7d],
      \"filters\": [
        \x7b\"field\": \"provider\", \"operator\": \"not_in\", \"value\": [\"paddle\", 7]\x7d,
        \x7b\"field\": \"amount\", \"operator\": \"gte\", \"value\": 100\x7d],
      \"groupBy\": [\"country\"], \"timeUnit\": \"day\", \"websiteId\": \"site_2\",
      \"timezone\": \"Europe/Vienna\", \"offset\": 0, \"limit\": 25\x7d"

set_option maxRecDepth 2000 in
theorem carries_salesRun : salesRun.Carries (salesQuery.jsonShowing fun _ => false) :=
  Request.carries_of_chars (by rw [salesRun, paymentsRequest]) (by decide +kernel)
    (by decide +kernel) (by decide +kernel)

set_option maxRecDepth 2000 in
theorem carries_salesPreview :
    salesPreview.Carries ((flattened salesQuery (some 0)).jsonShowing fun _ => false) :=
  Request.carries_of_chars (by rw [salesPreview, paymentsRequest]) (by decide +kernel)
    (by decide +kernel) (by decide +kernel)

theorem previews_sales : Previews salesPreview salesRun salesQuery where
  sameQuery := rfl
  sameTimezone := rfl
  previewBody := ⟨some 0, _, rfl, carries_salesPreview⟩
  runBody := ⟨_, carries_salesRun⟩
  website := by
    intro id h
    cases h
    decide

/-- The preview succeeds although the store is down, and shows the one call: its website, its time
zone and the values of its filters are those of the body. -/
theorem compile_previews_sales :
    Registry.ofTables Schema.tables = .ok downBackend.engine.registry ∧
      Previews salesPreview salesRun salesQuery ∧
      ∀ (arrival : Arrival) (s : State), ∃ q : CompiledQuery,
        (Route.custom.answer downBackend arrival salesRun s).calls = [q] ∧
          (Route.compile.answer downBackend arrival salesPreview s).response =
            compiledResponse q.sql q.params ∧
          q.params.get? "website_id" = some (.text "site_2") ∧
          q.params.get? "timezone" = some (.text "Europe/Vienna") ∧
          q.params.get? (Sql.filterParameter 0) = some (.texts ["paddle", "7"]) ∧
          q.params.get? (Sql.filterParameter 1) = some (.number (.ofUInt32 100)) := by
  have hregistry : Registry.ofTables Schema.tables = .ok downBackend.engine.registry := by
    simp only [downBackend, Engine.builtin, Schema.ofTables_tables]
  refine ⟨hregistry, previews_sales, ?_⟩
  intro arrival s
  have hcaller :
      Caller.ofRequest salesRun =
        .ok ⟨⟨some "site_1", none, none, none⟩, some "Europe/Berlin"⟩ := by
    decide +kernel
  have hrun : salesRun.payload CustomRequest.decoder = .ok salesQuery :=
    Request.payload_of_carries (CustomRequest.readsBack _) (by decide) carries_salesRun
  have hcalls := calls_answerCustom downBackend s hcaller hrun arrival
  have hvalues :
      ((Engine.builtin.compileCustom salesQuery (some "site_1")).toOption.map fun q =>
        [ q.params.get? "website_id", q.params.get? "timezone",
          q.params.get? (Sql.filterParameter 0), q.params.get? (Sql.filterParameter 1) ]) =
        some [ some (.text "site_2"), some (.text "Europe/Vienna"),
          some (.texts ["paddle", "7"]), some (.number (.ofUInt32 100)) ] := by
    decide +kernel
  obtain ⟨q, hq, hparams⟩ := Option.map_eq_some_iff.mp hvalues
  have hcall : (Route.custom.answer downBackend arrival salesRun s).calls = [q] :=
    hcalls.trans (congrArg Option.toList hq)
  have hshows := compile_previews_custom hregistry previews_sales arrival arrival s s
  refine ⟨q, hcall, (hshows.shown q.sql q.params).mpr ⟨q, hcall, rfl, rfl⟩, ?_⟩
  simpa using hparams

end Service
end AnalyticsQuery
