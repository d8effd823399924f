import AnalyticsQuery.Proofs.Catalog.Builtin
import AnalyticsQuery.Proofs.Catalog.Validity
import AnalyticsQuery.Proofs.Schema.Registry

/-!
# What a known domain costs

Where the domain of the website is known, the referrers are listed without it.
No other named query looks at the domain, and this one gets a filter more, behind
the one of its template and in front of those of the request.  The filters of the
template count among the twenty that a configuration may have.  So a request for
the referrers has room for nineteen filters of its own where the domain is not
known, and for eighteen where it is.

* `resolve_of_domain`: a known domain changes the resolved configuration by its
  exclusion only, and no error.
* `admits_topReferrers_iff`: when a request for the referrers is admitted.
* `known_domain_costs_one_filter`: the domain decides for no other request than
  one for the referrers with nineteen filters.
-/

namespace AnalyticsQuery
namespace Catalog

/-- A request is admitted for a named query when it resolves to a valid configuration. -/
def Admits (c : Catalog) (registry : Registry) (id : String) (request : Customization) : Prop :=
  ∃ config, c.resolve registry id request = .ok config ∧ config.validate registry = .ok ()

/-- The filter that leaves out the referrers of a domain. -/
def exclusion (domain : String) : Filter :=
  ⟨"referrer", .notContains, .scalar (.text domain)⟩

/-- The configuration of a named query where a domain is known, from the one where none is: that of
the referrers has the exclusion of the domain behind its first filter. -/
def withDomain (id domain : String) (config : Config) : Config :=
  if id = "top_referrers" then
    { config with filters := config.filters.insertIdx 1 (exclusion domain) }
  else config

/-- The entry of the referrers. -/
def topReferrersEntry : CatalogEntry :=
  CatalogEntry.named "top_referrers" fun c => topReferrers c.domain

theorem get?_topReferrers : builtin.get? "top_referrers" = some topReferrersEntry :=
  get?_ofEntries nodup_builtinEntries (e := topReferrersEntry)
    (by simp [builtinEntries, topReferrersEntry])

theorem table?_topReferrers (domain : Option String) :
    Schema.registry.table? (topReferrers domain).table = some Schema.pageviews :=
  Schema.table?_of_mem List.mem_cons_self

/-- A template is all that an entry looks at the context for. -/
theorem resolveEntry_congr
    {entry : CatalogEntry} {context context' : TemplateContext}
    (h : entry.template context = entry.template context') (registry : Registry)
    (filters : List Filter) (groupBy : List String) :
    resolveEntry registry entry ⟨context, filters, groupBy⟩ =
      resolveEntry registry entry ⟨context', filters, groupBy⟩ := by
  simp only [resolveEntry, h]
  rfl

/-! ## Requests for the referrers -/

/-- The filters that leave out empty referrers and, where it is known, the own domain. -/
theorem length_filters_topReferrers (domain : Option String) :
    (topReferrers domain).filters.length = 1 + domain.toList.length := by
  simp [topReferrers, pageviewBreakdown, breakdown, Nat.add_comm]

theorem fitsTable_topReferrers (domain : Option String) :
    (topReferrers domain).FitsTable Schema.pageviews := by
  have hnone : (topReferrers none).validate Schema.registry = .ok () :=
    Config.validate_eq_ok_iff.mpr ⟨Schema.pageviews, table?_topReferrers none, rfl, rfl, rfl⟩
  have hvalid : (topReferrers domain).validate Schema.registry = .ok () := by
    cases domain with
    | none => exact hnone
    | some domain => exact validate_topReferrers hnone domain
  rw [Config.validate_eq_ok_iff_isValid] at hvalid
  exact (Config.isValid_iff_fitsTable (table?_topReferrers domain)).mp hvalid

/-- The entry allows no filter that the table of page views has no column for. -/
theorem exists_column_of_allows
    {field : String} (h : topReferrersEntry.Allows field) :
    ∃ column, Schema.pageviews.column? field = some column := by
  have hcolumns :
      ∀ name ∈ CatalogEntry.globalFilters, (Schema.pageviews.column? name).isSome = true := by
    decide +kernel
  rcases h with h | h
  · exact Option.isSome_iff_exists.mp (hcolumns field h)
  · cases h

section Referrers

variable {request : Customization} {config : Config}

theorem resolve_topReferrers_eq_ok_iff :
    builtin.resolve Schema.registry "top_referrers" request = .ok config ↔
      (∀ f ∈ request.filters, topReferrersEntry.Allows f.field) ∧
        config = customize Schema.pageviews (topReferrers request.context.domain) request := by
  simp only [resolve, get?_topReferrers]
  constructor
  · intro h
    have hallows := allows_of_resolveEntry_eq_ok rfl h
    rw [resolveEntry_of_allows rfl hallows (table?_topReferrers _)] at h
    cases h
    exact ⟨hallows, rfl⟩
  · rintro ⟨hallows, rfl⟩
    exact resolveEntry_of_allows rfl hallows (table?_topReferrers _)

/-- All filters of the request are taken over behind those of the template. -/
theorem length_filters_of_resolve
    (h : builtin.resolve Schema.registry "top_referrers" request = .ok config) :
    config.filters.length =
      1 + request.context.domain.toList.length + request.filters.length := by
  obtain ⟨hallows, rfl⟩ := resolve_topReferrers_eq_ok_iff.mp h
  have hown :
      (request.filters.countP fun f => (Schema.pageviews.column? f.field).isSome) =
        request.filters.length := by
    rw [List.countP_eq_length]
    intro f hf
    exact Option.isSome_iff_exists.mpr (exists_column_of_allows (hallows f hf))
  rw [(customized_customize ..).length_filters, hown, length_filters_topReferrers]

/-- What matters beside the template is what the request brings. -/
theorem validate_of_resolve_iff
    (h : builtin.resolve Schema.registry "top_referrers" request = .ok config) :
    config.validate Schema.registry = .ok () ↔
      config.filters.length ≤ 20 ∧ (∀ f ∈ request.filters, f.IsAllowed Schema.pageviews) ∧
        (appendKeys Schema.pageviews ["referrer"] request.groupBy).length ≤ 5 := by
  obtain ⟨hallows, rfl⟩ := resolve_topReferrers_eq_ok_iff.mp h
  have htable :
      Schema.registry.table?
          (customize Schema.pageviews (topReferrers request.context.domain) request).table =
        some Schema.pageviews := table?_topReferrers request.context.domain
  have hown :
      (∀ f ∈ request.filters, (∃ column, Schema.pageviews.column? f.field = some column) →
        f.IsAllowed Schema.pageviews) ↔ ∀ f ∈ request.filters, f.IsAllowed Schema.pageviews := by
    constructor
    · intro h f hf
      exact h f hf (exists_column_of_allows (hallows f hf))
    · intro h f hf _
      exact h f hf
  rw [Config.validate_eq_ok_iff_isValid, Config.isValid_iff_fitsTable htable,
    (customized_customize ..).fitsTable_iff (fitsTable_topReferrers _), hown]
  rfl

theorem admits_topReferrers_iff :
    builtin.Admits Schema.registry "top_referrers" request ↔
      (∀ f ∈ request.filters, topReferrersEntry.Allows f.field) ∧
        1 + request.context.domain.toList.length + request.filters.length ≤ 20 ∧
        (∀ f ∈ request.filters, f.IsAllowed Schema.pageviews) ∧
        (appendKeys Schema.pageviews ["referrer"] request.groupBy).length ≤ 5 := by
  constructor
  · rintro ⟨config, hresolve, hvalid⟩
    have hallows := (resolve_topReferrers_eq_ok_iff.mp hresolve).1
    rw [validate_of_resolve_iff hresolve, length_filters_of_resolve hresolve] at hvalid
    exact ⟨hallows, hvalid⟩
  · rintro ⟨hallows, hfits⟩
    have hresolve := resolve_topReferrers_eq_ok_iff.mpr ⟨hallows, rfl⟩
    rw [← length_filters_of_resolve hresolve] at hfits
    exact ⟨_, hresolve, (validate_of_resolve_iff hresolve).mpr hfits⟩

theorem validate_of_many_filters
    (h : builtin.resolve Schema.registry "top_referrers" request = .ok config)
    (hmany : 20 < config.filters.length) :
    config.validate Schema.registry = .error .tooManyFilters := by
  obtain ⟨-, rfl⟩ := resolve_topReferrers_eq_ok_iff.mp h
  exact Config.validate_of_many_filters (table?_topReferrers request.context.domain) rfl hmany

end Referrers

section Domain

variable (id : String) (unit : TimeUnit) (filters : List Filter) (groupBy : List String)
  (domain : String)

/-- No entry but that of the referrers looks at the domain. -/
theorem resolve_of_ne (hid : id ≠ "top_referrers") :
    builtin.resolve Schema.registry id ⟨⟨unit, some domain⟩, filters, groupBy⟩ =
      builtin.resolve Schema.registry id ⟨⟨unit, none⟩, filters, groupBy⟩ := by
  simp only [resolve]
  cases hget : builtin.get? id with
  | none => rfl
  | some entry =>
      obtain ⟨he, hname⟩ := of_get?_ofEntries hget
      rcases template_of_domain entry he unit domain with htemplate | ⟨hreferrers, -, -⟩
      · exact resolveEntry_congr htemplate Schema.registry filters groupBy
      · exact absurd (hname.symm.trans hreferrers) hid

theorem resolve_of_domain :
    builtin.resolve Schema.registry id ⟨⟨unit, some domain⟩, filters, groupBy⟩ =
      (builtin.resolve Schema.registry id ⟨⟨unit, none⟩, filters, groupBy⟩).map
        (withDomain id domain) := by
  by_cases hid : id = "top_referrers"
  · subst hid
    cases hfind : filters.find? fun f => !topReferrersEntry.permits f.field with
    | some f =>
        simp only [resolve, get?_topReferrers, resolveEntry, hfind]
        rfl
    | none =>
        have hallows : ∀ f ∈ filters, topReferrersEntry.Allows f.field := by
          intro f hf
          simpa [← topReferrersEntry.permits_iff] using List.find?_eq_none.mp hfind f hf
        rw [resolve_topReferrers_eq_ok_iff.mpr ⟨hallows, rfl⟩,
          resolve_topReferrers_eq_ok_iff.mpr ⟨hallows, rfl⟩]
        rfl
  · have hsame : withDomain id domain = fun config => config := by
      funext config
      exact if_neg hid
    rw [resolve_of_ne id unit filters groupBy domain hid, hsame]
    cases builtin.resolve Schema.registry id ⟨⟨unit, none⟩, filters, groupBy⟩ with
    | error e => rfl
    | ok config => rfl

theorem admits_of_domain_iff :
    builtin.Admits Schema.registry id ⟨⟨unit, some domain⟩, filters, groupBy⟩ ↔
      builtin.Admits Schema.registry id ⟨⟨unit, none⟩, filters, groupBy⟩ ∧
        ¬ (id = "top_referrers" ∧ filters.length = 19) := by
  by_cases hid : id = "top_referrers"
  · subst hid
    rw [admits_topReferrers_iff, admits_topReferrers_iff]
    simp only [Option.toList_some, Option.toList_none, List.length_cons, List.length_nil]
    constructor
    · rintro ⟨hallows, hlength, hfits⟩
      refine ⟨⟨hallows, by omega, hfits⟩, ?_⟩
      rintro ⟨-, hnineteen⟩
      omega
    · rintro ⟨⟨hallows, hlength, hfits⟩, hnineteen⟩
      have hne : filters.length ≠ 19 := fun h => hnineteen ⟨trivial, h⟩
      exact ⟨hallows, by omega, hfits⟩
  · simp [Admits, resolve_of_ne id unit filters groupBy domain hid, hid]

/-- A known domain adds its exclusion to what a request for the referrers resolves to, and changes
nothing else.  It decides for no request but one for the referrers with nineteen filters, which is
refused for its number of filters. -/
theorem known_domain_costs_one_filter :
    builtin.resolve Schema.registry id ⟨⟨unit, some domain⟩, filters, groupBy⟩ =
      (builtin.resolve Schema.registry id ⟨⟨unit, none⟩, filters, groupBy⟩).map
        (withDomain id domain) ∧
    (builtin.Admits Schema.registry id ⟨⟨unit, some domain⟩, filters, groupBy⟩ ↔
      builtin.Admits Schema.registry id ⟨⟨unit, none⟩, filters, groupBy⟩ ∧
        ¬ (id = "top_referrers" ∧ filters.length = 19)) ∧
    (id = "top_referrers" ∧ filters.length = 19 →
      ∀ config, builtin.resolve Schema.registry id ⟨⟨unit, some domain⟩, filters, groupBy⟩ =
          .ok config →
        config.validate Schema.registry = .error .tooManyFilters) := by
  refine ⟨resolve_of_domain .., admits_of_domain_iff .., ?_⟩
  rintro ⟨rfl, hnineteen⟩ config hresolve
  have hlength := length_filters_of_resolve hresolve
  simp only [Option.toList_some, List.length_cons, List.length_nil, hnineteen] at hlength
  exact validate_of_many_filters hresolve (by omega)

end Domain

/-- As many filters as a request for the referrers has room for where no domain is known. -/
def nineteenFilters : List Filter :=
  List.replicate 19 ⟨"path", .eq, .scalar (.text "/")⟩

theorem allows_nineteenFilters : ∀ f ∈ nineteenFilters, topReferrersEntry.Allows f.field := by
  intro f hf
  rw [List.eq_of_mem_replicate hf]
  exact Or.inl (by decide)

/-- The domain takes the place of the last of nineteen filters. -/
theorem domain_refuses_nineteen_filters :
    builtin.Admits Schema.registry "top_referrers" ⟨⟨.day, none⟩, nineteenFilters, []⟩ ∧
      ¬ builtin.Admits Schema.registry "top_referrers"
        ⟨⟨.day, some "example.com"⟩, nineteenFilters, []⟩ := by
  constructor
  · refine ⟨_, resolve_topReferrers_eq_ok_iff.mpr ⟨allows_nineteenFilters, rfl⟩, ?_⟩
    exact Config.validate_eq_ok_iff.mpr
      ⟨Schema.pageviews, table?_topReferrers none, rfl, rfl, rfl⟩
  · rintro ⟨config, hresolve, hvalid⟩
    have hmany : 20 < config.filters.length := by
      rw [length_filters_of_resolve hresolve]
      decide
    rw [validate_of_many_filters hresolve hmany] at hvalid
    cases hvalid

theorem nineteenFilters_tooManyFilters :
    ∃ config,
      builtin.resolve Schema.registry "top_referrers"
        ⟨⟨.day, some "example.com"⟩, nineteenFilters, []⟩ = .ok config ∧
      config.validate Schema.registry = .error .tooManyFilters := by
  have hresolve :
      ∃ config, builtin.resolve Schema.registry "top_referrers"
        ⟨⟨.day, some "example.com"⟩, nineteenFilters, []⟩ = .ok config :=
    ⟨_, resolve_topReferrers_eq_ok_iff.mpr ⟨allows_nineteenFilters, rfl⟩⟩
  obtain ⟨config, hconfig⟩ := hresolve
  obtain ⟨-, -, hrefused⟩ :=
    known_domain_costs_one_filter "top_referrers" .day nineteenFilters [] "example.com"
  exact ⟨config, hconfig, hrefused ⟨rfl, rfl⟩ config hconfig⟩

end Catalog
end AnalyticsQuery
