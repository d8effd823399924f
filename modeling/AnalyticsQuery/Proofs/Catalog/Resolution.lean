import AnalyticsQuery.Catalog.Basic
import AnalyticsQuery.Proofs.Catalog.Policy
import AnalyticsQuery.Proofs.Query.Validation

/-!
# Resolved configurations

An entry of a catalog is *sound* in a context when its template is valid there
and every filter that it permits is on a column that is open to filters, or on
none of its table.  Soundness is a matter of the entry alone and can be
computed: it says nothing about the requests that are to come.

A request brings its own filters and group keys.  What it makes of a sound entry
is valid, or it brings too many of them, or one of its filters has a wrong value.
Nothing else can be wrong with it.

* `IsSoundIn.of_passes`: the check of an entry.
* `blame_customized`: what can be wrong with a customized configuration.
* `verdict_customized`: the same where only open columns are filtered.
* `verdict_resolveEntry`: the checks of what a sound entry answers to any request.
-/

namespace AnalyticsQuery

open Validation

/-- Whether a table has no column of a name, or one that filters may name. -/
def Table.opens (table : Table) (field : String) : Bool :=
  (table.column? field).all Column.filterable

theorem Table.filterable_of_opens
    {table : Table} {field : String} {column : Column}
    (h : table.opens field = true) (hcolumn : table.column? field = some column) :
    column.filterable = true := by
  simpa [Table.opens, hcolumn] using h

namespace CatalogEntry

/-- An entry whose template is valid in a context and whose permitted filters are on open
columns. -/
structure IsSoundIn (e : CatalogEntry) (registry : Registry) (context : TemplateContext) :
    Prop where
  valid : (e.template context).validate registry = .ok ()
  opens : ∀ table field, registry.table? (e.template context).table = some table →
    e.permits field = true → table.opens field = true

/-- The check of an entry in a context. -/
def passes (e : CatalogEntry) (registry : Registry) (context : TemplateContext) : Bool :=
  ((e.template context).validate registry).toBool &&
    (registry.table? (e.template context).table).all fun table =>
      (globalFilters ++ e.allowedFilters.keys).all table.opens

theorem IsSoundIn.of_passes
    {e : CatalogEntry} {registry : Registry} {context : TemplateContext}
    (h : e.passes registry context = true) :
    e.IsSoundIn registry context := by
  rw [passes, Bool.and_eq_true] at h
  obtain ⟨hvalid, hopens⟩ := h
  constructor
  · cases hcheck : (e.template context).validate registry with
    | ok u => rfl
    | error reason => simp [hcheck, Except.toBool] at hvalid
  · intro table field htable hpermits
    simp only [htable, Option.all_some, List.all_eq_true] at hopens
    exact hopens field (List.mem_append.mpr ((e.permits_iff field).mp hpermits))

end CatalogEntry

namespace Catalog

/-- What the checks can say of a configuration that only the filters and group keys of a request can
be the fault of. -/
inductive Verdict (table : Table) (filters : List Filter) : Except ValidationError Unit → Prop
  | valid : Verdict table filters (.ok ())
  | tooManyFilters : Verdict table filters (.error .tooManyFilters)
  | tooManyGroupBy : Verdict table filters (.error .tooManyGroupBy)
  | invalidValue {f : Filter} {e : ValidationError} :
      f ∈ filters → checkFilter table f = .error e → e.kind = .invalidFilterValue →
        Verdict table filters (.error e)

/-- What can be wrong with a customized configuration when its template is valid. -/
inductive Blame (table : Table) (filters : List Filter) : ValidationError → Prop
  | tooManyFilters : Blame table filters .tooManyFilters
  | tooManyGroupBy : Blame table filters .tooManyGroupBy
  | filter {f : Filter} {column : Column} {e : ValidationError} :
      f ∈ filters → table.column? f.field = some column → checkFilter table f = .error e →
        Blame table filters e

section Customized

variable {registry : Registry} {table : Table} {template config : Config}
  {request : Customization}

/-- What is wrong with a customized configuration is not the fault of a valid template. -/
theorem blame_customized
    (htable : registry.table? template.table = some table)
    (hvalid : template.validate registry = .ok ())
    (hcustomized : Customized table template request config) {e : ValidationError}
    (h : config.validate registry = .error e) :
    Blame table request.filters e := by
  obtain ⟨table', htable', hselects, hfilters, hkeys⟩ := Config.validate_eq_ok_iff.mp hvalid
  rw [htable] at htable'
  cases htable'
  rw [← hcustomized.table_eq] at htable
  rcases Config.validate_eq_error htable h with h | h | h
  · rw [hcustomized.selects_eq, hselects] at h
    cases h
  · rcases checkFilters_eq_error h with rfl | ⟨f, hf, hcheck⟩
    · exact Blame.tooManyFilters
    · -- The filters of the template pass, so the one that fails is a filter of the request.
      rcases (hcustomized.mem_filters f).mp hf with hf | ⟨hmem, column, hcolumn⟩
      · rw [checkFilter_of_checkFilters hfilters hf] at hcheck
        cases hcheck
      · exact Blame.filter hmem hcolumn hcheck
  · rcases checkGroupKeys_eq_error h with rfl | ⟨key, hkey, hcheck⟩
    · exact Blame.tooManyGroupBy
    · rcases hcustomized.mem_groupBy hkey with hkey | ⟨column, hcolumn⟩
      · rw [checkGroupKey_of_checkGroupKeys hkeys hkey] at hcheck
        cases hcheck
      · simp [checkGroupKey, hcolumn, require] at hcheck

/-- A valid configuration stays so under a request, up to what the request brings itself. -/
theorem verdict_customized
    (htable : registry.table? template.table = some table)
    (hvalid : template.validate registry = .ok ())
    (hopens : ∀ f ∈ request.filters, table.opens f.field = true)
    (hcustomized : Customized table template request config) :
    Verdict table request.filters (config.validate registry) := by
  cases hcheck : config.validate registry with
  | ok u => exact Verdict.valid
  | error e =>
      cases blame_customized htable hvalid hcustomized hcheck with
      | tooManyFilters => exact Verdict.tooManyFilters
      | tooManyGroupBy => exact Verdict.tooManyGroupBy
      | filter hmem hcolumn hfilter =>
          have hopen := Table.filterable_of_opens (hopens _ hmem) hcolumn
          exact Verdict.invalidValue hmem hfilter (kind_of_checkFilter hcolumn hopen hfilter)

end Customized

/-- What a request makes of a sound entry can only be wrong by its own filters and group keys. -/
theorem verdict_resolveEntry
    {registry : Registry} {entry : CatalogEntry} {request : Customization} {config : Config}
    (hsound : entry.IsSoundIn registry request.context)
    (h : resolveEntry registry entry request = .ok config) :
    ∃ table, registry.table? config.table = some table ∧
      Verdict table request.filters (config.validate registry) := by
  have hvalid := hsound.valid
  obtain ⟨table, htable, -⟩ := Config.validate_eq_ok_iff.mp hvalid
  cases hcustomizable : entry.customizable with
  | false =>
      rw [(policy_resolveEntry registry entry request).fixed hcustomizable] at h
      cases h
      refine ⟨table, htable, ?_⟩
      rw [hvalid]
      exact Verdict.valid
  | true =>
      have hallows := allows_of_resolveEntry_eq_ok hcustomizable h
      rw [resolveEntry_of_allows hcustomizable hallows htable] at h
      cases h
      refine ⟨table, htable, verdict_customized htable hvalid ?_ (customized_customize ..)⟩
      intro f hf
      have hpermits : entry.permits f.field = true := (entry.permits_iff f.field).mpr (hallows f hf)
      exact hsound.opens table f.field htable hpermits

end Catalog
end AnalyticsQuery
