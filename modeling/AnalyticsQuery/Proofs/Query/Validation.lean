import AnalyticsQuery.Query.Compilation

/-!
# What the checks of a configuration say

The checks of a configuration stop at the first broken rule.  A list of checks
passes when each of its members does, and its error is that of a member.

* `validate_eq_ok_iff`: a valid configuration passes the checks of its table.
* `kind_of_checkFilter`: a filter on a column that is open to filters can only
  have a wrong value.
* `validate_eq_error`: on a known table the answer is that of one of its lists.
* `compileValid_eq_error`: what fails to compile is not valid.
-/

namespace AnalyticsQuery
namespace Validation

section CheckAll

variable {α : Type} {check : α → Except ValidationError Unit}

theorem checkAll_eq_ok_iff {l : List α} :
    checkAll check l = .ok () ↔ ∀ a ∈ l, check a = .ok () := by
  induction l with
  | nil => simp [checkAll]
  | cons a rest ih =>
      cases h : check a with
      | error e => simp [checkAll, h]
      | ok u => simp [checkAll, h, ih]

theorem exists_of_checkAll_eq_error
    {l : List α} {e : ValidationError} (h : checkAll check l = .error e) :
    ∃ a ∈ l, check a = .error e := by
  induction l with
  | nil => simp [checkAll] at h
  | cons a rest ih =>
      cases ha : check a with
      | error e' =>
          simp only [checkAll, ha] at h
          cases h
          exact ⟨a, List.mem_cons_self, ha⟩
      | ok u =>
          simp only [checkAll, ha] at h
          obtain ⟨b, hb, hcheck⟩ := ih h
          exact ⟨b, List.mem_cons_of_mem a hb, hcheck⟩

end CheckAll

theorem require_eq_error
    {condition : Bool} {e e' : ValidationError} (h : require condition e = .error e') :
    condition = false ∧ e' = e := by
  cases condition with
  | true => simp [require] at h
  | false =>
      simp only [require, Bool.false_eq_true, if_false, Except.error.injEq] at h
      exact ⟨rfl, h.symm⟩

/-- The value of a filter is the only thing that is looked at beside its column. -/
theorem kind_of_checkValue
    {column : Column} {operator : Operator} {value : FilterValue} {e : ValidationError}
    (h : checkValue column operator value = .error e) :
    e.kind = .invalidFilterValue := by
  simp only [checkValue] at h
  split at h
  · rw [(require_eq_error h).2]
    rfl
  · rw [(require_eq_error h).2]
    rfl
  · rw [(require_eq_error h).2]
    rfl
  · rw [(require_eq_error h).2]
    rfl
  · cases h

/-- A filter on a column that is open to filters fails by its value only. -/
theorem kind_of_checkFilter
    {table : Table} {f : Filter} {column : Column} {e : ValidationError}
    (hcolumn : table.column? f.field = some column) (hopen : column.filterable = true)
    (h : checkFilter table f = .error e) :
    e.kind = .invalidFilterValue := by
  simp only [checkFilter, hcolumn, hopen, Bool.not_true, Bool.false_eq_true, if_false] at h
  split at h
  · cases h
    rfl
  · exact kind_of_checkValue h

/-- A filter on a column of the table fails by the column or by its value. -/
theorem kind_of_checkFilter_of_column
    {table : Table} {f : Filter} {column : Column} {e : ValidationError}
    (hcolumn : table.column? f.field = some column) (h : checkFilter table f = .error e) :
    e.kind = .filterNotAllowed ∨ e.kind = .invalidFilterValue := by
  cases hopen : column.filterable with
  | true => exact Or.inr (kind_of_checkFilter hcolumn hopen h)
  | false =>
      simp only [checkFilter, hcolumn, hopen, Bool.not_false, if_true] at h
      cases h
      exact Or.inl rfl

section CheckLists

variable {table : Table} {e : ValidationError}

theorem checkFilters_eq_error
    {filters : List Filter} (h : checkFilters table filters = .error e) :
    e = .tooManyFilters ∨ ∃ f ∈ filters, checkFilter table f = .error e := by
  simp only [checkFilters] at h
  split at h
  · cases h
    exact Or.inl rfl
  · exact Or.inr (exists_of_checkAll_eq_error h)

theorem checkGroupKeys_eq_error
    {fields : List String} (h : checkGroupKeys table fields = .error e) :
    e = .tooManyGroupBy ∨ ∃ field ∈ fields, checkGroupKey table field = .error e := by
  simp only [checkGroupKeys] at h
  split at h
  · cases h
    exact Or.inl rfl
  · exact Or.inr (exists_of_checkAll_eq_error h)

theorem checkFilter_of_checkFilters
    {filters : List Filter} (h : checkFilters table filters = .ok ()) {f : Filter}
    (hf : f ∈ filters) : checkFilter table f = .ok () := by
  simp only [checkFilters] at h
  split at h
  · cases h
  · exact checkAll_eq_ok_iff.mp h f hf

theorem checkGroupKey_of_checkGroupKeys
    {fields : List String} (h : checkGroupKeys table fields = .ok ()) {field : String}
    (hfield : field ∈ fields) : checkGroupKey table field = .ok () := by
  simp only [checkGroupKeys] at h
  split at h
  · cases h
  · exact checkAll_eq_ok_iff.mp h field hfield

end CheckLists

end Validation

open Validation

/-- A configuration is valid when its table is known and the checks of that table pass. -/
theorem Config.validate_eq_ok_iff {registry : Registry} {config : Config} :
    config.validate registry = .ok () ↔
      ∃ table, registry.table? config.table = some table ∧
        checkSelects table config.selects = .ok () ∧
        checkFilters table config.filters = .ok () ∧
        checkGroupKeys table config.groupBy = .ok () := by
  unfold Config.validate
  cases registry.table? config.table with
  | none => simp
  | some table =>
      cases hselects : checkSelects table config.selects with
      | error e => simp [hselects]
      | ok u =>
          cases hfilters : checkFilters table config.filters with
          | error e => simp [hselects, hfilters]
          | ok u' => simp [hselects, hfilters]

/-- The checks of a configuration on a known table fail in one of its three lists. -/
theorem Config.validate_eq_error
    {registry : Registry} {config : Config} {table : Table} {e : ValidationError}
    (htable : registry.table? config.table = some table) (h : config.validate registry = .error e) :
    checkSelects table config.selects = .error e ∨
      checkFilters table config.filters = .error e ∨
      checkGroupKeys table config.groupBy = .error e := by
  simp only [Config.validate, htable] at h
  cases hselects : checkSelects table config.selects with
  | error e' =>
      rw [hselects] at h
      cases h
      exact Or.inl rfl
  | ok u =>
      rw [hselects] at h
      cases hfilters : checkFilters table config.filters with
      | error e' =>
          simp only [hfilters] at h
          cases h
          exact Or.inr (Or.inl rfl)
      | ok u' =>
          simp only [hfilters] at h
          exact Or.inr (Or.inr h)

/-- Too many filters are refused before any of them is looked at. -/
theorem Config.validate_of_many_filters
    {registry : Registry} {config : Config} {table : Table}
    (htable : registry.table? config.table = some table)
    (hselects : checkSelects table config.selects = .ok ())
    (hmany : Limits.maxFilters < config.filters.length) :
    config.validate registry = .error .tooManyFilters := by
  simp only [Config.validate, htable, hselects, checkFilters, if_pos hmany]

/-- A valid configuration compiles, so what fails to compile is not valid. -/
theorem Config.compileValid_eq_error
    {registry : Registry} {config : Config} {scope : Scope} {e : Error}
    (h : config.compileValid registry scope = .error e) :
    ∃ reason, e = .validation reason ∧ config.validate registry = .error reason := by
  unfold Config.compileValid at h
  cases hvalid : config.validate registry with
  | error reason =>
      simp only [hvalid] at h
      cases h
      exact ⟨reason, rfl, rfl⟩
  | ok u =>
      obtain ⟨table, htable, -⟩ := Config.validate_eq_ok_iff.mp hvalid
      simp only [hvalid, Config.compile, htable] at h
      cases h

end AnalyticsQuery
