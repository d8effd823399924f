import AnalyticsQuery.Proofs.Catalog.Resolution
import AnalyticsQuery.Proofs.Query.Rules

/-!
# Validity of what an entry resolves to

A customizable entry with a valid template can be used without looking at the
template again.  What it makes of the filters and group keys of a request is
valid exactly when there is room for them and each filter that is taken over is
valid on its own.  This holds for every registry and every entry, also for one
that allows filters on columns that are closed to them: such a filter is taken
over and refused by the checks.

* `Filter.validate_alone_iff`: what is asked of a filter on its own.
* `Customized.fitsTable_iff`: what is asked of the parts that a request adds.
* `resolve_valid_iff`: when the resolved configuration is valid, and how it fails
  if it is not.
-/

namespace AnalyticsQuery

/-- The count of the rows of a table that pass one filter. -/
def Filter.alone (f : Filter) (table : String) : Config where
  table := table
  selects := [⟨wildcard, .count, none⟩]
  filters := [f]
  groupBy := []
  timeBucket := none

section Alone

variable {registry : Registry} {name : String} {table : Table} {f : Filter}

theorem Filter.fitsTable_alone_iff : (f.alone name).FitsTable table ↔ f.IsAllowed table := by
  constructor
  · intro h
    exact h.filters f List.mem_cons_self
  · intro hallowed
    constructor
    · simp [Filter.alone]
    · simp [Filter.alone]
    · intro s hs
      rw [List.mem_singleton.mp hs]
      exact Or.inl ⟨rfl, rfl⟩
    · simp [Filter.alone]
    · intro g hg
      rw [List.mem_singleton.mp hg]
      exact hallowed
    · simp [Filter.alone]
    · simp [Filter.alone]

theorem Config.isValid_iff_fitsTable
    {config : Config} (htable : registry.table? config.table = some table) :
    config.IsValid registry ↔ config.FitsTable table := by
  simp [IsValid, htable]

/-- On its own a filter has to name a column that is open to filters, with a value that fits. -/
theorem Filter.validate_alone_iff (htable : registry.table? name = some table) :
    (f.alone name).validate registry = .ok () ↔ f.IsAllowed table := by
  have halone : registry.table? (f.alone name).table = some table := htable
  rw [Config.validate_eq_ok_iff_isValid, Config.isValid_iff_fitsTable halone,
    Filter.fitsTable_alone_iff]

end Alone

namespace Catalog

/-- Beside a template that fits its table, only the number of filters, those of the request and the
number of group keys matter. -/
theorem Customized.fitsTable_iff
    {table : Table} {template config : Config} {request : Customization}
    (h : Customized table template request config) (htemplate : template.FitsTable table) :
    config.FitsTable table ↔
      config.filters.length ≤ 20 ∧
        (∀ f ∈ request.filters, (∃ column, table.column? f.field = some column) →
          f.IsAllowed table) ∧
        config.groupBy.length ≤ 5 := by
  constructor
  · intro hfits
    refine ⟨hfits.filters_le, ?_, hfits.groupBy_le⟩
    intro f hf hcolumn
    exact hfits.filters f ((h.mem_filters f).mpr (Or.inr ⟨hf, hcolumn⟩))
  · rintro ⟨hfiltersLe, hown, hgroupByLe⟩
    constructor
    · rw [h.selects_eq]
      exact htemplate.selects_pos
    · rw [h.selects_eq]
      exact htemplate.selects_le
    · rw [h.selects_eq]
      exact htemplate.selects
    · exact hfiltersLe
    · intro f hf
      rcases (h.mem_filters f).mp hf with hf | ⟨hf, hcolumn⟩
      · exact htemplate.filters f hf
      · exact hown f hf hcolumn
    · exact hgroupByLe
    · intro key hkey
      rcases h.mem_groupBy hkey with hkey | hcolumn
      · exact htemplate.groupBy key hkey
      · exact hcolumn

theorem Customized.length_filters
    {table : Table} {template config : Config} {request : Customization}
    (h : Customized table template request config) :
    config.filters.length = template.filters.length +
      request.filters.countP fun f => (table.column? f.field).isSome := by
  rw [h.filters_eq, List.length_append, List.countP_eq_length_filter]

/-- A filter that is taken over is on a column of the table, and a group key is one of them. -/
theorem Blame.kind_mem
    {table : Table} {filters : List Filter} {e : ValidationError} (h : Blame table filters e) :
    e.kind ∈ [ValidationKind.tooManyFilters, .filterNotAllowed, .invalidFilterValue,
      .tooManyGroupBy] := by
  cases h with
  | tooManyFilters => simp [ValidationError.tooManyFilters]
  | tooManyGroupBy => simp [ValidationError.tooManyGroupBy]
  | filter hmem hcolumn hcheck =>
      rcases Validation.kind_of_checkFilter_of_column hcolumn hcheck with hkind | hkind
      · simp [hkind]
      · simp [hkind]

/-- A customizable entry with a valid template resolves every request whose filters it allows.  The
result is valid when there are at most twenty filters and five group keys in it and each filter that
is taken over is valid on its own.  Otherwise the checks say which of these is not so. -/
theorem resolve_valid_iff
    {c : Catalog} {id : String} {entry : CatalogEntry} (hentry : c.get? id = some entry)
    (hcustomizable : entry.customizable = true) {registry : Registry} {request : Customization}
    (hvalid : (entry.template request.context).validate registry = .ok ())
    (hallows : ∀ f ∈ request.filters, entry.Allows f.field) :
    ∃ table config,
      registry.table? (entry.template request.context).table = some table ∧
      c.resolve registry id request = .ok config ∧
      Customized table (entry.template request.context) request config ∧
      (config.validate registry = .ok () ↔
        (entry.template request.context).filters.length +
            (request.filters.countP fun f => (table.column? f.field).isSome) ≤ 20 ∧
          (∀ f ∈ request.filters, (∃ column, table.column? f.field = some column) →
            (f.alone config.table).validate registry = .ok ()) ∧
          config.groupBy.length ≤ 5) ∧
      ∀ e, config.validate registry = .error e →
        e.kind ∈ [ValidationKind.tooManyFilters, .filterNotAllowed, .invalidFilterValue,
          .tooManyGroupBy] := by
  obtain ⟨table, htable, htemplate⟩ := (Config.validate_eq_ok_iff_isValid _ _).mp hvalid
  obtain ⟨config, hresolve, hcustomized⟩ :=
    (resolve_follows_policy hentry registry request).customized hcustomizable hallows table htable
  have hconfig : registry.table? config.table = some table := by
    rw [hcustomized.table_eq]
    exact htable
  refine ⟨table, config, htable, hresolve, hcustomized, ?_, ?_⟩
  · rw [Config.validate_eq_ok_iff_isValid, Config.isValid_iff_fitsTable hconfig,
      hcustomized.fitsTable_iff htemplate, hcustomized.length_filters]
    simp only [Filter.validate_alone_iff hconfig]
  · intro e he
    exact (blame_customized htable hvalid hcustomized he).kind_mem

/-- A request that leaves no room for another filter or group key of the most visited pages. -/
def fullRequest : Customization where
  context := ⟨.day, none⟩
  filters := List.replicate 19 ⟨"country", .eq, .scalar (.text "DE")⟩
  groupBy := ["country", "os_name", "browser_name", "device_type"]

/-- With the filter and the group key of the template there are twenty and five. -/
theorem fullRequest_valid :
    ∃ config, builtin.resolve Schema.registry "top_pages" fullRequest = .ok config ∧
      config.filters.length = 20 ∧ config.groupBy.length = 5 ∧
      config.validate Schema.registry = .ok () := by
  have hentry :
      builtin.get? "top_pages" =
        some (CatalogEntry.named "top_pages" fun _ => pageviewBreakdown "path") := rfl
  have hpageviews : Schema.registry.table? "pageviews" = some Schema.pageviews :=
    Schema.table?_of_mem List.mem_cons_self
  have hvalid : (pageviewBreakdown "path").validate Schema.registry = .ok () :=
    Config.validate_eq_ok_iff.mpr ⟨Schema.pageviews, hpageviews, rfl, rfl, rfl⟩
  have hallows :
      ∀ f ∈ fullRequest.filters,
        (CatalogEntry.named "top_pages" fun _ => pageviewBreakdown "path").Allows f.field := by
    intro f hf
    rw [List.eq_of_mem_replicate hf]
    exact Or.inl (by decide)
  obtain ⟨table, config, htable, hresolve, hcustomized, hiff, -⟩ :=
    resolve_valid_iff hentry rfl hvalid hallows
  have hname : config.table = "pageviews" := hcustomized.table_eq
  have hlength : config.filters.length = 20 ∧ config.groupBy.length = 5 := by
    simp only [resolve, hentry] at hresolve
    rw [resolveEntry_of_allows rfl hallows hpageviews] at hresolve
    cases hresolve
    exact ⟨rfl, rfl⟩
  refine ⟨config, hresolve, hlength.1, hlength.2, hiff.mpr ⟨?_, ?_, Nat.le_of_eq hlength.2⟩⟩
  · rw [← hcustomized.length_filters]
    exact Nat.le_of_eq hlength.1
  · intro f hf _
    rw [List.eq_of_mem_replicate hf, hname]
    exact Config.validate_eq_ok_iff.mpr ⟨Schema.pageviews, hpageviews, rfl, rfl, rfl⟩

end Catalog
end AnalyticsQuery
