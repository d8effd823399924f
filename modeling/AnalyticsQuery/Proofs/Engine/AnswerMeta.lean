import AnalyticsQuery.Proofs.Catalog.Policy
import AnalyticsQuery.Proofs.Engine.Paging

/-!
# What an answer says about its queries

The answer to a request names one page, one row limit and one number of filters
for all of its parameters, whereas each parameter has a query of its own.  Its
entry may have a row limit of its own, which counts when the request names none,
and it need not take over the filters of the request: a fixed entry takes none,
and one on a table without a column leaves the filters on that column out.

Limit, offset and conditions are read back from the text of each query, so this
says when they are those of the answer, and what they are when they are not.

* `CatalogEntry.length_taken_eq_iff`: when all filters of a request are taken over.
* `tells_compileParameter`: the query of one parameter beside the answer.
* `run_tells`: the queries of all parameters of a request.
-/

namespace AnalyticsQuery

open Sql

/-! ## Conditions of a query -/

/-- The conditions that the text of a query puts on the rows of its table. -/
def rowConditions? (sql : String) : Option (List (List Token)) :=
  (readClauses? sql).bind fun clauses =>
    match Clause.bodies "where" clauses with
    | [condition] => some (Token.conjuncts condition)
    | _ => none

theorem rowConditions?_statement
    (table : Table) (config : Config) (limit offset : UInt32) :
    rowConditions? (Compilation.statement table config limit offset).sql =
      some (Layout.conditions table config) := by
  have hwhere :
      Clause.bodies "where" (Compilation.statement table config limit offset).clauses =
        [Token.conjoined (Layout.conditions table config)] := by
    rw [Compilation.bodies_statement (by decide) (by decide)]
    unfold Statement.offsetClause
    split <;> rfl
  rw [rowConditions?, Compilation.readClauses?_statement, Option.bind_some, hwhere]
  exact congrArg some (Compilation.conjuncts_conditions table config)

/-! ## Filters of a request -/

namespace CatalogEntry

/-- The filters that an entry takes over from a request: those whose column its table has, or none
when the entry is fixed. -/
def taken (e : CatalogEntry) (table : Table) (filters : List Filter) : List Filter :=
  if e.customizable then filters.filter fun f => (table.column? f.field).isSome else []

theorem sublist_taken (e : CatalogEntry) (table : Table) (filters : List Filter) :
    (e.taken table filters).Sublist filters := by
  unfold taken
  split
  · exact List.filter_sublist
  · exact List.nil_sublist filters

theorem length_taken_eq_iff (e : CatalogEntry) (table : Table) (filters : List Filter) :
    (e.taken table filters).length = filters.length ↔
      filters = [] ∨
        e.customizable = true ∧ ∀ f ∈ filters, ∃ column, table.column? f.field = some column := by
  cases hcustomizable : e.customizable with
  | false =>
      simp [taken, hcustomizable, eq_comm]
  | true =>
      have hall :
          (e.taken table filters).length = filters.length ↔
            ∀ f ∈ filters, ∃ column, table.column? f.field = some column := by
        simp [taken, hcustomizable, Option.isSome_iff_exists]
      rw [hall]
      constructor
      · intro h
        exact Or.inr ⟨rfl, h⟩
      · rintro (rfl | ⟨-, h⟩)
        · simp
        · exact h

end CatalogEntry

/-- What an entry resolves to has the filters of its template in front of those that it takes
over. -/
theorem Catalog.filters_of_resolveEntry
    {registry : Registry} {entry : CatalogEntry} {request : Customization} {table : Table}
    {config : Config} (h : resolveEntry registry entry request = .ok config)
    (htable : registry.table? config.table = some table) :
    registry.table? (entry.template request.context).table = some table ∧
      config.filters =
        (entry.template request.context).filters ++ entry.taken table request.filters := by
  have hpolicy := policy_resolveEntry registry entry request
  cases hcustomizable : entry.customizable with
  | false =>
      rw [hpolicy.fixed hcustomizable] at h
      cases h
      exact ⟨htable, by simp [CatalogEntry.taken, hcustomizable]⟩
  | true =>
      have hallows := allows_of_resolveEntry_eq_ok hcustomizable h
      cases hknown : registry.table? (entry.template request.context).table with
      | none =>
          rw [hpolicy.untabled hcustomizable hallows hknown] at h
          cases h
          rw [hknown] at htable
          cases htable
      | some known =>
          obtain ⟨_, hok, hcustomized⟩ := hpolicy.customized hcustomizable hallows known hknown
          rw [h] at hok
          cases hok
          rw [hcustomized.table_eq, hknown] at htable
          cases htable
          exact ⟨rfl, by simp [hcustomized.filters_eq, CatalogEntry.taken, hcustomizable]⟩

/-! ## Answers -/

/-- A query of an entry beside the page, limit and number of filters that an answer names.  The
answer speaks of the filters of the request only, not of the entry's own ones. -/
structure BatchMeta.Tells (about : BatchMeta) (request : BatchRequest) (entry : CatalogEntry)
    (own : List Filter) (table : Table) (q : CompiledQuery) : Prop where
  /-- The rows of the page, as long as the limit is one that a query may have. -/
  window : request.wantedLimit.getD entry.defaultLimit ≤ Limits.maxQueryLimit →
    rowWindow? q.sql =
      some ⟨min ((about.page.toNat - 1) * (request.wantedLimit.getD entry.defaultLimit).toNat)
          4294967295,
        (request.wantedLimit.getD entry.defaultLimit).toNat⟩
  limit_eq_iff : request.wantedLimit.getD entry.defaultLimit = about.limit ↔
    request.wantedLimit.isSome = true ∨ entry.defaultLimit = about.limit
  conditions : rowConditions? q.sql =
    some (Layout.scopeConditions table ++
      (own ++ entry.taken table request.filters).zipIdx.map (Layout.filterCondition table))
  filters_le : (entry.taken table request.filters).length ≤ about.filtersApplied
  filters_eq_iff : (entry.taken table request.filters).length = about.filtersApplied ↔
    request.filters = [] ∨
      entry.customizable = true ∧
        ∀ f ∈ request.filters, ∃ column, table.column? f.field = some column

namespace BatchRequest

theorem pageNumber_pos (r : BatchRequest) : 0 < r.pageNumber := by
  unfold pageNumber
  cases h : r.page.filter (0 < ·) with
  | none => decide
  | some page =>
      have hpos := (Option.filter_eq_some_iff.mp h).2
      exact of_decide_eq_true hpos

end BatchRequest

namespace Engine

variable {engine : Engine} {store : Store} {tenant : Tenant} {request : BatchRequest}

theorem parameterLimit_of_get?
    {parameter : String} {entry : CatalogEntry}
    (h : engine.catalog.get? parameter = some entry) :
    engine.parameterLimit request parameter = request.wantedLimit.getD entry.defaultLimit := by
  simp [parameterLimit, h]

/-- The limit of an entry is the one that the answer names when the request names one, or when the
entry has the usual one. -/
theorem limit_eq_about_iff (entry : CatalogEntry) :
    request.wantedLimit.getD entry.defaultLimit = (about request).limit ↔
      request.wantedLimit.isSome = true ∨ entry.defaultLimit = (about request).limit := by
  cases hwanted : request.wantedLimit with
  | none => simp
  | some limit => simp [about, hwanted]

/-- The offset of a parameter is that of the page which the answer names. -/
theorem toNat_offset_parameterScope (parameter : String) :
    (engine.parameterScope request tenant parameter).offset.toNat =
      min (((about request).page.toNat - 1) * (engine.parameterLimit request parameter).toNat)
        4294967295 := by
  have hbefore : (request.pageNumber - 1).toNat = request.pageNumber.toNat - 1 := by
    have hpos := request.pageNumber_pos
    rw [UInt32.lt_iff_toNat_lt] at hpos
    apply UInt32.toNat_sub_of_le
    rw [UInt32.le_iff_toNat_le]
    exact hpos
  rw [parameterScope, toNat_saturatingMul, hbefore]
  rfl

/-- The window of a parameter whose limit is one that a query may have. -/
theorem rowWindow?_of_parameterLimit
    {parameter : String} (h : engine.parameterLimit request parameter ≤ Limits.maxQueryLimit)
    (table : Table) (config : Config) :
    rowWindow? (Compilation.statement table config (engine.parameterLimit request parameter)
        (engine.parameterScope request tenant parameter).offset).sql =
      some ⟨min (((about request).page.toNat - 1) *
          (engine.parameterLimit request parameter).toNat) 4294967295,
        (engine.parameterLimit request parameter).toNat⟩ := by
  have hcount : (engine.parameterLimit request parameter).toNat ≤ 10000 :=
    UInt32.le_iff_toNat_le.mp h
  rw [rowWindow?_statement, toNat_offset_parameterScope, Nat.min_eq_left hcount]

/-- The query of a parameter that compiles, beside what the answer says. -/
theorem tells_compileParameter
    {domain : Option String} {parameter : String} {q : CompiledQuery}
    (h : engine.compileParameter request tenant domain parameter = .ok q) :
    ∃ entry table,
      engine.catalog.get? parameter = some entry ∧
      engine.registry.table? (entry.template (contextOf request domain)).table = some table ∧
      (about request).Tells request entry (entry.template (contextOf request domain)).filters
        table q := by
  unfold compileParameter at h
  cases hget : engine.catalog.get? parameter with
  | none =>
      simp only [Catalog.resolve, hget] at h
      cases h
  | some entry =>
      simp only [Catalog.resolve, hget] at h
      split at h
      · cases h
      · rename_i config hresolve
        obtain ⟨-, hcompile⟩ := Config.compileValid_eq_ok h
        obtain ⟨table, htable, rfl⟩ := Config.compile_eq_ok hcompile
        obtain ⟨hknown, hfilters⟩ := Catalog.filters_of_resolveEntry hresolve htable
        have hlimit :
            engine.parameterLimit request parameter =
              request.wantedLimit.getD entry.defaultLimit := parameterLimit_of_get? hget
        refine ⟨entry, table, rfl, hknown, ?_, limit_eq_about_iff entry, ?_, ?_, ?_⟩
        · intro hle
          rw [← hlimit] at hle ⊢
          exact rowWindow?_of_parameterLimit hle table config
        · rw [CompiledQuery.sql, rowConditions?_statement, Layout.conditions, hfilters]
        · exact (entry.sublist_taken table request.filters).length_le
        · exact entry.length_taken_eq_iff table request.filters

theorem forall₂_items
    {domain : Option String} {parameters : List String} {p : String → CompiledQuery → Prop}
    (h : ∀ parameter q, engine.compileParameter request tenant domain parameter = .ok q →
      p parameter q) :
    List.Forall₂
      (fun parameter item => item.result.parameter = parameter ∧ ∀ q ∈ item.calls, p parameter q)
      parameters (parameters.map (engine.runParameter store request tenant domain)) := by
  rw [List.forall₂_map_right_iff, List.forall₂_same]
  intro parameter _
  refine ⟨engine.parameter_runParameter store tenant request domain parameter, ?_⟩
  intro q hq
  exact h parameter q (Executed.mem_calls_ofCompiled hq)

/-- A request of the right shape is answered with one page, one limit and one number of filters, and
with an item for each parameter.  A query that the store receives for an item has the page of the
answer under its own limit, which is that of the answer when the request names one or the entry has
the usual one, and it has no more filters of the request than the answer says: all of them when the
entry is customizable and its table has their columns. -/
theorem run_tells
    (h : request.hasShape = true) {σ : Type} (directory : Directory σ) (s : σ) :
    ∃ response items,
      (engine.run store directory tenant request s).1 =
        ⟨.ok response, items.flatMap Executed.calls⟩ ∧
      response.about = about request ∧
      response.data = items.map Executed.result ∧
      List.Forall₂
        (fun parameter item => item.result.parameter = parameter ∧ ∀ q ∈ item.calls,
          ∃ entry template table,
            engine.catalog.get? parameter = some entry ∧
            template = entry.template
              (contextOf request ((directory tenant.websiteId s).1.bind Website.bareHost?)) ∧
            engine.registry.table? template.table = some table ∧
            response.about.Tells request entry template.filters table q)
        request.parameters items := by
  rw [engine.run_of_hasShape store tenant directory h s]
  refine ⟨_, _, rfl, rfl, rfl, forall₂_items ?_⟩
  intro parameter q hcompiles
  obtain ⟨entry, table, hget, htable, htells⟩ := tells_compileParameter hcompiles
  exact ⟨entry, _, table, hget, rfl, htable, htells⟩

/-- A request for one parameter with a filter on each of some fields. -/
def filtered (parameter : String) (fields : List String) (limit page : Option UInt32) :
    BatchRequest where
  id := none
  parameters := [parameter]
  filters := fields.map fun field => ⟨field, .eq, .scalar (.text "US")⟩
  granularity := none
  groupBy := []
  limit := limit
  page := page

/-- The third page of the most visited pages in one country. -/
def pagesOfCountry : BatchRequest :=
  filtered "top_pages" ["country"] (some 20) (some 3)

theorem compiles_pagesOfCountry :
    ∃ q, builtin.compileParameter pagesOfCountry visitsTenant none "top_pages" = .ok q :=
  ⟨_, rfl⟩

/-- The entry and the request have one filter each. -/
theorem run_tells_pagesOfCountry :
    pagesOfCountry.hasShape = true ∧
      ∃ response calls, ∃ q ∈ calls, ∃ conditions,
        (builtin.run (fun _ => .ok []) (fun _ asked => (none, asked + 1)) visitsTenant
          pagesOfCountry 0).1 = ⟨.ok response, calls⟩ ∧
        response.about.page = 3 ∧ response.about.limit = 20 ∧ response.about.filtersApplied = 1 ∧
        rowWindow? q.sql = some ⟨(3 - 1) * 20, 20⟩ ∧
        rowConditions? q.sql = some conditions ∧ conditions.length = 3 + 1 + 1 := by
  have hshape : pagesOfCountry.hasShape = true := rfl
  obtain ⟨q, hcompiles⟩ := compiles_pagesOfCountry
  have hcall :
      q ∈ (builtin.run (fun _ => .ok []) (fun _ asked => (none, asked + 1)) visitsTenant
        pagesOfCountry 0).1.calls :=
    mem_calls_run hshape (List.mem_singleton_self _) rfl hcompiles
  obtain ⟨response, items, hrun, habout, -, hitems⟩ :=
    @run_tells builtin (fun _ => .ok []) visitsTenant pagesOfCountry hshape Nat
      (fun _ asked => (none, asked + 1)) 0
  rw [hrun] at hcall ⊢
  cases hitems with
  | @cons _ item _ _ hitem hrest =>
      cases hrest
      have hq : q ∈ item.calls := by
        simpa using hcall
      obtain ⟨entry, template, table, hget, rfl, htable, htells⟩ := hitem.2 q hq
      cases hget
      have hpageviews : Schema.registry.table? "pageviews" = some Schema.pageviews :=
        @Schema.table?_of_mem Schema.pageviews (by simp [Schema.tables])
      cases hpageviews.symm.trans htable
      have hw := htells.window (by decide)
      have hcountry : ∀ f ∈ pagesOfCountry.filters,
          ∃ column, Schema.pageviews.column? f.field = some column := by
        simp only [pagesOfCountry, filtered, List.map_cons, List.map_nil, List.mem_singleton,
          forall_eq]
        exact ⟨_, rfl⟩
      have htaken := htells.filters_eq_iff.mpr (Or.inr ⟨rfl, hcountry⟩)
      rw [habout] at hw htaken
      refine ⟨hshape, response, _, q, hcall, _, rfl, ?_, ?_, ?_, hw, htells.conditions, ?_⟩
      · rw [habout]
        rfl
      · rw [habout]
        rfl
      · rw [habout]
        rfl
      · simp only [List.length_append, List.length_map, List.length_zipIdx, htaken]
        rfl

/-- A limit of an entry, a filter and an offset that are not those of the answer: the request names
no limit, the table does not have the field of its filter, and the offset stops at the greatest
number. -/
theorem answer_apart_from_queries :
    (∃ response q w,
      (builtin.run (fun _ => .ok []) (fun _ asked => (none, asked + 1)) visitsTenant
        (filtered "summary_metrics" [] none none) 0).1 = ⟨.ok response, [q]⟩ ∧
      rowWindow? q.sql = some w ∧ w.count ≠ response.about.limit.toNat) ∧
    (∃ response q conditions,
      (builtin.run (fun _ => .ok []) (fun _ asked => (none, asked + 1)) visitsTenant
        (filtered "error_types" ["country"] none none) 0).1 = ⟨.ok response, [q]⟩ ∧
      rowConditions? q.sql = some conditions ∧ (∀ c ∈ conditions, Token.name "country" ∉ c) ∧
      response.about.filtersApplied = 1) ∧
    ∃ response q w,
      (builtin.run (fun _ => .ok []) (fun _ asked => (none, asked + 1)) visitsTenant
        (filtered "top_pages" [] (some 10000) (some 429498)) 0).1 = ⟨.ok response, [q]⟩ ∧
      rowWindow? q.sql = some w ∧
      w.first ≠ (response.about.page.toNat - 1) * response.about.limit.toNat := by
  refine ⟨⟨_, _, _, rfl, rowWindow?_statement .., ?_⟩,
    ⟨_, _, _, rfl, rowConditions?_statement .., ?_, rfl⟩,
    ⟨_, _, _, rfl, rowWindow?_statement .., ?_⟩⟩
  · decide
  · decide
  · decide

end Engine
end AnalyticsQuery
