import AnalyticsQuery.Proofs.Engine.TenantScope

/-!
# Pages of a result

A page of a parameter is a window into the rows of one result: LIMIT counts its
rows and OFFSET those in front of it.  The two numbers come from different
places, one from the compiler and one from the engine, so they are read back
from the text of the query that the store receives.

The offset of a page is a product that stops at the greatest number of its
type.  Up to there, and as long as the limit is one that a query may have, each
page begins where the one before it ends.

* `rowWindow?_pageQuery`: the window of a page in terms of its number.
* `compileParameter_onPage`: a parameter that compiles does so on every page,
  and the pages differ in their offset only.
* `pages_tile`: the pages of a parameter follow each other, and the first of
  them together show the first rows, each row once.
-/

namespace AnalyticsQuery

open Sql

/-! ## Windows -/

/-- Rows of a result that follow each other. -/
structure Window where
  first : Nat
  count : Nat
deriving DecidableEq, Repr

/-- The numbers of the rows of a window. -/
def Window.rows (w : Window) : List Nat :=
  List.range' w.first w.count

/-- The window that the text of a query asks for; with no OFFSET it begins at the first row. -/
def rowWindow? (sql : String) : Option Window :=
  (readClauses? sql).bind fun clauses =>
    match Clause.bodies "limit" clauses, Clause.bodies "offset" clauses with
    | [[.number count]], [] => some ⟨0, count⟩
    | [[.number count]], [[.number first]] => some ⟨first, count⟩
    | _, _ => none

/-- The window of a page under a row limit.  It has no more rows than a query may have and does not
begin behind the greatest offset. -/
def Window.ofPage (limit : Nat) (page : UInt32) : Window :=
  ⟨min ((page.toNat - 1) * limit) 4294967295, min limit 10000⟩

theorem rowWindow?_statement
    (table : Table) (config : Config) (limit offset : UInt32) :
    rowWindow? (Compilation.statement table config limit offset).sql =
      some ⟨offset.toNat, min limit.toNat 10000⟩ := by
  have hlimit :=
    Compilation.bodies_statement (show "limit" ≠ "group" by decide) (by decide)
      table config limit offset
  have hoffset :=
    Compilation.bodies_statement (show "offset" ≠ "group" by decide) (by decide)
      table config limit offset
  rw [rowWindow?, Compilation.readClauses?_statement, Option.bind_some, hlimit, hoffset]
  unfold Statement.offsetClause
  by_cases hzero : 0 < offset
  · rw [if_pos hzero]
    rfl
  · have hnone : offset.toNat = 0 := by
      rw [UInt32.lt_iff_toNat_lt] at hzero
      simpa using hzero
    rw [if_neg hzero, hnone]
    rfl

/-- A page begins where the one before it ends, or at the greatest offset. -/
theorem Window.first_ofPage_succ
    {limit : Nat} (hlimit : limit ≤ 10000)
    {page : UInt32} (h : 0 < page) (hnext : page.toNat + 1 < 4294967296) :
    (ofPage limit (page + 1)).first =
      min ((ofPage limit page).first + (ofPage limit page).count) 4294967295 := by
  have hsucc : (page + 1).toNat = page.toNat + 1 := by
    rw [UInt32.toNat_add]
    exact Nat.mod_eq_of_lt hnext
  have hone : page.toNat = (page.toNat - 1) + 1 := by
    rw [UInt32.lt_iff_toNat_lt] at h
    exact (Nat.sub_add_cancel h).symm
  have hproduct : page.toNat * limit = (page.toNat - 1) * limit + limit := by
    rw [← Nat.succ_mul]
    exact congrArg (· * limit) hone
  -- A page that begins at the greatest offset is followed by another one that begins there.
  simp only [ofPage, hsucc, Nat.add_sub_cancel, hproduct]
  omega

/-- Pages that begin in front of the greatest offset together show the first rows. -/
theorem Window.rows_walk
    {limit n : Nat} (hlimit : limit ≤ 10000) (hn : n < 4294967296)
    (hfits : n * limit ≤ 4294967295) :
    (List.range n).flatMap (fun i => (ofPage limit (UInt32.ofNat (i + 1))).rows) =
      List.range (n * limit) := by
  induction n with
  | zero =>
      rw [Nat.zero_mul]
      rfl
  | succ n ih =>
      have hle : n * limit ≤ 4294967295 :=
        Nat.le_trans (Nat.mul_le_mul_right limit (Nat.le_succ n)) hfits
      have hnumber : (UInt32.ofNat (n + 1)).toNat = n + 1 :=
        UInt32.toNat_ofNat_of_lt' hn
      have hlast : ofPage limit (UInt32.ofNat (n + 1)) = ⟨n * limit, limit⟩ := by
        rw [ofPage, hnumber, Nat.add_sub_cancel, Nat.min_eq_left hle, Nat.min_eq_left hlimit]
      -- The next page shows the rows behind the first `n * limit` ones.
      rw [List.range_succ, List.flatMap_append, ih (Nat.lt_of_succ_lt hn) hle,
        List.flatMap_singleton, hlast, rows, List.range'_eq_map_range, Nat.succ_mul,
        List.range_add]

/-! ## Pages -/

theorem toNat_saturatingMul (a b : UInt32) :
    (saturatingMul a b).toNat = min (a.toNat * b.toNat) 4294967295 := by
  unfold saturatingMul
  by_cases hfits : a.toNat * b.toNat < 4294967296
  · rw [if_pos hfits, UInt32.toNat_mul, Nat.mod_eq_of_lt hfits]
    omega
  · have hgreatest : (4294967295 : UInt32).toNat = 4294967295 := rfl
    rw [if_neg hfits, hgreatest]
    omega

namespace BatchRequest

/-- The same request for another page. -/
def onPage (r : BatchRequest) (page : UInt32) : BatchRequest :=
  { r with page := some page }

theorem pageNumber_onPage (r : BatchRequest) {page : UInt32} (h : 0 < page) :
    (r.onPage page).pageNumber = page := by
  have hsome : Option.filter (fun n : UInt32 => decide (0 < n)) (some page) = some page :=
    Option.filter_some_pos (decide_eq_true h)
  rw [pageNumber, onPage, hsome]
  rfl

end BatchRequest

namespace Engine

variable (engine : Engine) (tenant : Tenant) (request : BatchRequest)

/-- The query of a parameter that resolves to a configuration on a table. -/
def pageQuery (parameter : String) (table : Table) (config : Config) : CompiledQuery where
  statement :=
    Compilation.statement table config (engine.parameterLimit request parameter)
      (engine.parameterScope request tenant parameter).offset
  params := Compilation.bindings table config (engine.parameterScope request tenant parameter)

theorem params_pageQuery_onPage
    (parameter : String) (table : Table) (config : Config) (page : UInt32) :
    (engine.pageQuery tenant (request.onPage page) parameter table config).params =
      (engine.pageQuery tenant request parameter table config).params := by
  simp only [pageQuery, Compilation.bindings, Compilation.scopeBindings, parameterScope]

theorem rowWindow?_pageQuery
    (parameter : String) (table : Table) (config : Config) {page : UInt32} (h : 0 < page) :
    rowWindow? (engine.pageQuery tenant (request.onPage page) parameter table config).sql =
      some (Window.ofPage (engine.parameterLimit request parameter).toNat page) := by
  have hlimit :
      engine.parameterLimit (request.onPage page) parameter =
        engine.parameterLimit request parameter := rfl
  have hbefore : (page - 1).toNat = page.toNat - 1 := by
    rw [UInt32.lt_iff_toNat_lt] at h
    apply UInt32.toNat_sub_of_le
    rw [UInt32.le_iff_toNat_le]
    exact h
  have hoffset :
      (engine.parameterScope (request.onPage page) tenant parameter).offset.toNat =
        min ((page.toNat - 1) * (engine.parameterLimit request parameter).toNat) 4294967295 := by
    rw [parameterScope, toNat_saturatingMul, BatchRequest.pageNumber_onPage request h, hbefore,
      hlimit]
  rw [CompiledQuery.sql, pageQuery, rowWindow?_statement, hoffset, hlimit]
  rfl

variable {engine tenant request}

/-- A parameter that compiles does so on every page, and the pages differ in their offset only. -/
theorem compileParameter_onPage
    {domain : Option String} {parameter : String} {q : CompiledQuery}
    (h : engine.compileParameter request tenant domain parameter = .ok q) :
    ∃ table config, ∀ page,
      engine.compileParameter (request.onPage page) tenant domain parameter =
        .ok (engine.pageQuery tenant (request.onPage page) parameter table config) := by
  simp only [compileParameter] at h
  split at h
  · cases h
  · rename_i config hresolve
    obtain ⟨hvalid, hcompile⟩ := Config.compileValid_eq_ok h
    obtain ⟨table, htable, -⟩ := Config.compile_eq_ok hcompile
    refine ⟨table, config, ?_⟩
    intro page
    -- The page is part of the scope only, which neither resolution nor validation look at.
    have hpage :
        engine.catalog.resolve engine.registry parameter
          ⟨contextOf (request.onPage page) domain, (request.onPage page).filters,
            (request.onPage page).groupBy⟩ = .ok config := hresolve
    simp only [compileParameter, hpage, Config.compileValid, hvalid, Config.compile, htable]
    rfl

theorem mem_calls_run
    {store : Store} {domain : Option String} {parameter : String} {q : CompiledQuery}
    {σ : Type} {directory : Directory σ} {s : σ}
    (hshape : request.hasShape = true) (hmem : parameter ∈ request.parameters)
    (hdomain : (directory tenant.websiteId s).1.bind Website.bareHost? = domain)
    (h : engine.compileParameter request tenant domain parameter = .ok q) :
    q ∈ (engine.run store directory tenant request s).1.calls := by
  rw [engine.run_of_hasShape store tenant directory hshape, hdomain]
  have hitem : q ∈ (engine.runParameter store request tenant domain parameter).calls := by
    rw [runParameter, h]
    exact List.mem_singleton_self q
  exact List.mem_flatMap.mpr ⟨_, List.mem_map_of_mem hmem, hitem⟩

/-- The query of a page of a parameter, which the store receives, and the window that its text asks
for. -/
structure IsPage (engine : Engine) (tenant : Tenant) (request : BatchRequest)
    (domain : Option String) (parameter : String)
    (page : UInt32) (q : CompiledQuery) (w : Window) : Prop where
  compiled : engine.compileParameter (request.onPage page) tenant domain parameter = .ok q
  executed : ∀ (store : Store) {σ : Type} (directory : Directory σ) (s : σ),
    (directory tenant.websiteId s).1.bind Website.bareHost? = domain →
      q ∈ (engine.run store directory tenant (request.onPage page) s).1.calls
  read : rowWindow? q.sql = some w

theorem isPage_pageQuery
    {domain : Option String} {parameter : String} {table : Table} {config : Config} {page : UInt32}
    (hshape : request.hasShape = true) (hmem : parameter ∈ request.parameters)
    (hcompiles : engine.compileParameter (request.onPage page) tenant domain parameter =
      .ok (engine.pageQuery tenant (request.onPage page) parameter table config))
    (hpage : 0 < page) :
    engine.IsPage tenant request domain parameter page
      (engine.pageQuery tenant (request.onPage page) parameter table config)
      (Window.ofPage (engine.parameterLimit request parameter).toNat page) := by
  constructor
  · exact hcompiles
  · intro store σ directory s hdomain
    have hshape' : (request.onPage page).hasShape = true := hshape
    exact mem_calls_run hshape' hmem hdomain hcompiles
  · exact rowWindow?_pageQuery engine tenant request parameter table config hpage

/-- The pages of a parameter, all of them windows into one result. -/
structure IsWalk (engine : Engine) (tenant : Tenant) (request : BatchRequest)
    (domain : Option String) (parameter : String)
    (query : UInt32 → CompiledQuery) (window : UInt32 → Window) : Prop where
  pages : ∀ page, 0 < page →
    engine.IsPage tenant request domain parameter page (query page) (window page)
  sameParams : ∀ page, (query page).params = (query 1).params
  sameStatement : ∀ page, (query page).statement =
    { (query 1).statement with offset := (query page).statement.offset }

/-- The pages of a parameter whose limit is one that a query may have follow each other, whatever the
domain of the website is: a page begins where the one before it ends, or at the greatest offset if
that end is further on.  Pages that end in front of the greatest offset together show the first rows,
each row once and in order. -/
theorem pages_tile
    {parameter : String} (hshape : request.hasShape = true) (hmem : parameter ∈ request.parameters)
    (hlimit : engine.parameterLimit request parameter ≤ Limits.maxQueryLimit) :
    ∃ window,
      (∀ domain q, engine.compileParameter request tenant domain parameter = .ok q →
        ∃ query, engine.IsWalk tenant request domain parameter query window) ∧
      (∀ page : UInt32, 0 < page →
        (window page).count = (engine.parameterLimit request parameter).toNat) ∧
      (∀ page : UInt32, 0 < page → page.toNat + 1 < 4294967296 →
        (window (page + 1)).first =
          min ((window page).first + (window page).count) 4294967295) ∧
      ∀ n < 4294967296, n * (engine.parameterLimit request parameter).toNat ≤ 4294967295 →
        (List.range n).flatMap (fun i => (window (UInt32.ofNat (i + 1))).rows) =
          List.range (n * (engine.parameterLimit request parameter).toNat) := by
  rw [UInt32.le_iff_toNat_le] at hlimit
  refine ⟨Window.ofPage (engine.parameterLimit request parameter).toNat, ?_, ?_, ?_, ?_⟩
  · intro domain q hcompiles
    obtain ⟨table, config, hpages⟩ := compileParameter_onPage hcompiles
    refine ⟨fun page => engine.pageQuery tenant (request.onPage page) parameter table config, ?_⟩
    constructor
    · intro page hpage
      exact isPage_pageQuery hshape hmem (hpages page) hpage
    · intro page
      rw [params_pageQuery_onPage, params_pageQuery_onPage]
    · intro page
      rfl
  · intro page _
    exact Nat.min_eq_left hlimit
  · intro page hpage hnext
    exact Window.first_ofPage_succ hlimit hpage hnext
  · intro n hn hfits
    exact Window.rows_walk hlimit hn hfits

/-- A request for the most visited pages. -/
def topPages (limit : Option UInt32) : BatchRequest where
  id := none
  parameters := ["top_pages"]
  filters := []
  granularity := none
  groupBy := []
  limit := limit
  page := none

theorem compiles_topPages (limit : Option UInt32) :
    ∃ q, builtin.compileParameter (topPages limit) visitsTenant none "top_pages" = .ok q :=
  ⟨_, rfl⟩

theorem isPage_topPages (limit : Option UInt32) (page : UInt32) (h : 0 < page) :
    ∃ q, builtin.IsPage visitsTenant (topPages limit) none "top_pages" page q
      (Window.ofPage (builtin.parameterLimit (topPages limit) "top_pages").toNat page) := by
  obtain ⟨q, hcompiles⟩ := compiles_topPages limit
  obtain ⟨table, config, hpages⟩ := compileParameter_onPage hcompiles
  exact ⟨_, isPage_pageQuery rfl (List.mem_singleton_self _) (hpages page) h⟩

/-- Three pages of the most visited pages, with the limit of the catalog entry. -/
theorem pages_tile_topPages :
    (topPages none).hasShape = true ∧
      "top_pages" ∈ (topPages none).parameters ∧
      builtin.parameterLimit (topPages none) "top_pages" = 100 ∧
      ∃ query window,
        builtin.IsWalk visitsTenant (topPages none) none "top_pages" query window ∧
        [1, 2, 3].flatMap (fun page => (window page).rows) = List.range 300 := by
  have hshape : (topPages none).hasShape = true := rfl
  have hmem : "top_pages" ∈ (topPages none).parameters := List.mem_singleton_self _
  have hlimit : builtin.parameterLimit (topPages none) "top_pages" = 100 := by
    decide +kernel
  have hle : builtin.parameterLimit (topPages none) "top_pages" ≤ Limits.maxQueryLimit := by
    rw [hlimit]
    decide
  obtain ⟨q, hcompiles⟩ := compiles_topPages none
  obtain ⟨window, hwalks, -, -, hrows⟩ :=
    @pages_tile builtin visitsTenant (topPages none) "top_pages" hshape hmem hle
  obtain ⟨query, hwalk⟩ := hwalks none q hcompiles
  rw [hlimit] at hrows
  exact ⟨hshape, hmem, hlimit, query, window, hwalk, hrows 3 (by decide) (by decide)⟩

/-- Behind the greatest offset a page begins in front of the end of the one before it.  A limit
above the cap leaves rows out between two pages, as it counts in the offset in full. -/
theorem pages_apart_topPages :
    (∃ q r,
      builtin.IsPage visitsTenant (topPages (some 10000)) none "top_pages" 429497 q
        ⟨4294960000, 10000⟩ ∧
      builtin.IsPage visitsTenant (topPages (some 10000)) none "top_pages" 429498 r
        ⟨4294967295, 10000⟩ ∧
      4294967295 ≠ 4294960000 + 10000) ∧
    ∃ q r,
      builtin.IsPage visitsTenant (topPages (some 50000)) none "top_pages" 1 q ⟨0, 10000⟩ ∧
      builtin.IsPage visitsTenant (topPages (some 50000)) none "top_pages" 2 r ⟨50000, 10000⟩ ∧
      50000 ≠ 0 + 10000 := by
  constructor
  · obtain ⟨q, hq⟩ := isPage_topPages (some 10000) 429497 (by decide)
    obtain ⟨r, hr⟩ := isPage_topPages (some 10000) 429498 (by decide)
    exact ⟨q, r, hq, hr, by decide⟩
  · obtain ⟨q, hq⟩ := isPage_topPages (some 50000) 1 (by decide)
    obtain ⟨r, hr⟩ := isPage_topPages (some 50000) 2 (by decide)
    exact ⟨q, r, hq, hr, by decide⟩

end Engine
end AnalyticsQuery
