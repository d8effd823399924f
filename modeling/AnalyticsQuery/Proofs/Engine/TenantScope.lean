import AnalyticsQuery.Proofs.Engine.ParameterIsolation
import AnalyticsQuery.Proofs.Query.Parameters

/-!
# The website of a store call

Every query that reaches the store is compiled from a valid configuration and
reads the rows of one website only.  This is a statement about what the store
receives, a text and the values of its parameters: the text is read by the
lexer and cut into clauses and conjuncts without a look at how it was made.

* `scopedTo_of_compileValid`: a valid configuration compiles to a query that is
  scoped to the website of the scope.
* `calls_scoped`: every call of the store by a request, a batch or a free query
  is scoped to the website of its caller.
-/

namespace AnalyticsQuery

open Sql

/-- A query text with one WHERE clause outside all parentheses, whose conjuncts are the conditions
on website and time, then one for each filter, and with a bound on the number of rows. -/
def ScopedText (table : Table) (config : Config) (sql : String) : Prop :=
  ∃ (condition : List Token) (grouping skipping : List Clause) (rows : Nat),
    readClauses? sql =
        some
          ([ ⟨"select", Token.listed (Layout.columns table config)⟩,
             ⟨"from", [.name table.database, .sign ".", .name table.name]⟩,
             ⟨"where", condition⟩ ] ++
            grouping ++ [⟨"limit", [.number rows]⟩] ++ skipping) ∧
      (∀ c ∈ grouping, c.word = "group" ∨ c.word = "order") ∧
      (∀ c ∈ skipping, c.word = "offset") ∧
      Token.conjuncts condition =
        [ [.name table.clientIdField, .sign "=", .placeholder "website_id" "String"],
          [.name table.primaryTimeField, .sign ">="] ++ Layout.moment "start_date",
          [.name table.primaryTimeField, .sign "<="] ++ Layout.moment "end_date" ] ++
        config.filters.zipIdx.map (Layout.filterCondition table) ∧
      rows ≤ 10000

/-- A query that is compiled from a valid configuration and reads the rows of one website only. -/
structure IsScoped (registry : Registry) (websiteId : String) (q : CompiledQuery)
    (table : Table) (config : Config) (scope : Scope) : Prop where
  known : registry.table? config.table = some table
  valid : config.validate registry = .ok ()
  compiled : config.compile registry scope = .ok q
  website : scope.websiteId = websiteId
  bound : q.params.get? "website_id" = some (.text websiteId)
  text : ScopedText table config q.sql

/-- A query that is scoped to a website by some configuration. -/
def ScopedTo (registry : Registry) (websiteId : String) (q : CompiledQuery) : Prop :=
  ∃ table config scope, IsScoped registry websiteId q table config scope

/-! ## Compiled queries -/

theorem scopedText_statement
    (table : Table) (config : Config) (limit offset : UInt32) :
    ScopedText table config (Compilation.statement table config limit offset).sql := by
  have hread := Compilation.readClauses?_statement table config limit offset
  have hconjuncts := Compilation.conjuncts_conditions table config
  rw [Compilation.clauses_statement] at hread
  refine ⟨Token.conjoined (Layout.conditions table config),
    Statement.groupClause (Layout.groupNames config) ++
      Statement.orderClause (Compilation.rowOrder config),
    Statement.offsetClause offset, min limit.toNat 10000, ?_, ?_, ?_, hconjuncts,
    Nat.min_le_right _ _⟩
  · rw [hread]
    simp
  · intro c hc
    rcases List.mem_append.mp hc with hc | hc
    · exact Or.inl (Statement.word_of_mem_groupClause hc)
    · exact Or.inr (Statement.word_of_mem_orderClause hc)
  · intro c hc
    exact Statement.word_of_mem_offsetClause hc

theorem Config.compile_eq_ok
    {registry : Registry} {config : Config} {scope : Scope} {q : CompiledQuery}
    (h : config.compile registry scope = .ok q) :
    ∃ table, registry.table? config.table = some table ∧
      q = ⟨Compilation.statement table config scope.limit scope.offset,
        Compilation.bindings table config scope⟩ := by
  unfold Config.compile at h
  split at h
  · cases h
  · rename_i table htable
    cases h
    exact ⟨table, htable, rfl⟩

/-- What was validated and compiled is valid and compiles. -/
theorem Config.compileValid_eq_ok
    {registry : Registry} {config : Config} {scope : Scope} {q : CompiledQuery}
    (h : config.compileValid registry scope = .ok q) :
    config.validate registry = .ok () ∧ config.compile registry scope = .ok q := by
  unfold Config.compileValid at h
  split at h
  · cases h
  · rename_i hvalid
    cases hcompile : config.compile registry scope with
    | error e =>
        rw [hcompile] at h
        cases h
    | ok q' =>
        rw [hcompile] at h
        cases h
        exact ⟨hvalid, rfl⟩

/-- A valid configuration compiles to a query that is scoped to the website of the scope. -/
theorem scopedTo_of_compileValid
    {registry : Registry} {config : Config} {scope : Scope} {q : CompiledQuery}
    (h : config.compileValid registry scope = .ok q) :
    ScopedTo registry scope.websiteId q := by
  obtain ⟨hvalid, hcompile⟩ := Config.compileValid_eq_ok h
  obtain ⟨table, htable, rfl⟩ := Config.compile_eq_ok hcompile
  exact ⟨table, config, scope,
    { known := htable
      valid := hvalid
      compiled := hcompile
      website := rfl
      bound := Compilation.get?_bindings_website table config scope
      text := scopedText_statement table config scope.limit scope.offset }⟩

/-! ## Calls of the store -/

theorem Executed.mem_calls_ofCompiled
    {store : Store} {r : Except Error CompiledQuery} {q : CompiledQuery}
    (h : q ∈ (Executed.ofCompiled store r).calls) :
    r = .ok q := by
  cases r with
  | error e => cases h
  | ok q' =>
      rw [List.mem_singleton.mp h]

namespace Engine

variable {engine : Engine} {store : Store} {tenant : Tenant} {q : CompiledQuery}

/-- The query of a parameter is scoped to the website of the tenant. -/
theorem scopedTo_of_compileParameter
    {request : BatchRequest} {domain : Option String} {parameter : String}
    (h : engine.compileParameter request tenant domain parameter = .ok q) :
    ScopedTo engine.registry tenant.websiteId q := by
  simp only [compileParameter] at h
  split at h
  · cases h
  · exact scopedTo_of_compileValid h

theorem scopedTo_of_mem_items
    {request : BatchRequest} {domain : Option String} {parameters : List String}
    (h : q ∈ (engine.items store tenant request domain parameters).calls) :
    ScopedTo engine.registry tenant.websiteId q := by
  obtain ⟨e, he, hq⟩ := List.mem_flatMap.mp h
  obtain ⟨parameter, -, rfl⟩ := List.mem_map.mp he
  exact scopedTo_of_compileParameter (Executed.mem_calls_ofCompiled hq)

variable {σ : Type} {directory : Directory σ} {s : σ}

theorem scopedTo_of_mem_run
    {request : BatchRequest}
    (h : q ∈ (engine.run store directory tenant request s).1.calls) :
    ScopedTo engine.registry tenant.websiteId q := by
  by_cases hshape : request.hasShape = true
  · rw [engine.run_of_hasShape store tenant directory hshape] at h
    exact scopedTo_of_mem_items h
  · rw [run, if_neg hshape] at h
    cases h

theorem scopedTo_of_mem_runSlot
    {raw : Json}
    (h : q ∈ (engine.runSlot store directory tenant raw s).1.calls) :
    ScopedTo engine.registry tenant.websiteId q := by
  unfold runSlot at h
  split at h
  · cases h
  · exact scopedTo_of_mem_run h

/-- The slots of a batch are run one after another, and each keeps to the tenant. -/
theorem scopedTo_of_mem_runSlots
    {requests : List Json}
    (h : q ∈ (engine.runSlots store directory tenant requests s).1.flatMap Executed.calls) :
    ScopedTo engine.registry tenant.websiteId q := by
  induction requests generalizing s with
  | nil => cases h
  | cons raw rest ih =>
      simp only [runSlots, List.flatMap_cons, List.mem_append] at h
      rcases h with h | h
      · exact scopedTo_of_mem_runSlot h
      · exact ih h

theorem scopedTo_of_mem_runBatch
    {requests : List Json}
    (h : q ∈ (engine.runBatch store directory tenant requests s).1.calls) :
    ScopedTo engine.registry tenant.websiteId q := by
  unfold runBatch at h
  split at h
  · cases h
  · exact scopedTo_of_mem_runSlots h

/-- A free query is scoped to its own website, or to the fallback when it names none. -/
theorem scopedTo_of_mem_executeCustom
    {request : CustomRequest} {fallback : Option String}
    (h : q ∈ (engine.executeCustom store request fallback).calls) :
    ∃ websiteId, (request.websiteId <|> fallback) = some websiteId ∧
      ScopedTo engine.registry websiteId q := by
  have hcompile := Executed.mem_calls_ofCompiled h
  unfold compileCustom at hcompile
  split at hcompile
  · cases hcompile
  · rename_i scope hscope
    refine ⟨scope.websiteId, ?_, scopedTo_of_compileValid hcompile⟩
    unfold CustomRequest.scope at hscope
    split at hscope
    · cases hscope
    · rename_i websiteId hwebsite
      split at hscope
      · cases hscope
      · cases hscope
        exact (Option.filter_eq_some_iff.mp hwebsite).1

/-- Every call of the store is scoped to the website of its caller. -/
theorem calls_scoped (engine : Engine) (store : Store) :
    (∀ {σ : Type} (directory : Directory σ) (tenant : Tenant) (request : BatchRequest) (s : σ),
      ∀ q ∈ (engine.run store directory tenant request s).1.calls,
        ScopedTo engine.registry tenant.websiteId q) ∧
    (∀ {σ : Type} (directory : Directory σ) (tenant : Tenant) (requests : List Json) (s : σ),
      ∀ q ∈ (engine.runBatch store directory tenant requests s).1.calls,
        ScopedTo engine.registry tenant.websiteId q) ∧
    (∀ (request : CustomRequest) (fallback : Option String),
      ∀ q ∈ (engine.executeCustom store request fallback).calls,
        ∃ websiteId, (request.websiteId <|> fallback) = some websiteId ∧
          ScopedTo engine.registry websiteId q) := by
  refine ⟨?_, ?_, ?_⟩
  · intro σ directory tenant request s q hq
    exact scopedTo_of_mem_run hq
  · intro σ directory tenant requests s q hq
    exact scopedTo_of_mem_runBatch hq
  · intro request fallback q hq
    exact scopedTo_of_mem_executeCustom hq

/-- The two known parameters of a request call the store, for the website of the tenant. -/
theorem calls_scoped_visitsRequest :
    (builtin.run (fun _ => .ok []) (fun _ (asked : Nat) => (none, asked + 1)) visitsTenant
        visitsRequest 0).1.calls.length = 2 ∧
      ∃ q ∈ (builtin.run (fun _ => .ok []) (fun _ (asked : Nat) => (none, asked + 1)) visitsTenant
          visitsRequest 0).1.calls,
        ScopedTo builtin.registry visitsTenant.websiteId q := by
  have hcount :
      (builtin.run (fun _ => .ok []) (fun _ (asked : Nat) => (none, asked + 1)) visitsTenant
        visitsRequest 0).1.calls.length = 2 := by
    decide +kernel
  obtain ⟨q, hq⟩ := List.exists_mem_of_length_pos (Nat.lt_of_lt_of_eq Nat.two_pos hcount.symm)
  obtain ⟨hrun, -, -⟩ := calls_scoped builtin fun _ => .ok []
  exact ⟨hcount, q, hq, hrun (fun _ (asked : Nat) => (none, asked + 1)) visitsTenant
    visitsRequest 0 q hq⟩

end Engine
end AnalyticsQuery
