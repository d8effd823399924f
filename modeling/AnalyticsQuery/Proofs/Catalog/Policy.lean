import AnalyticsQuery.Catalog.Builtin
import AnalyticsQuery.Proofs.Schema.Registry
import Mathlib.Data.List.Basic

/-!
# The policy of an entry

A request cannot change what an entry selects, only narrow it down and divide
it further, and only as far as the entry allows.  A fixed entry gives its
template as it is.  A customizable one refuses the first filter on a field that
is neither allowed for all entries nor for this one, before it looks at any
table.  Otherwise it takes over the filters whose column its table has, and
those of the wanted group keys that the table has and that are not there yet,
each once.

* `appendKeys_eq_append`: what is appended to the group keys of a template.
* `resolve_follows_policy`: the policy, for every catalog, registry, named query
  and request.
-/

namespace AnalyticsQuery

namespace CatalogEntry

/-- A field is allowed for the filters of all entries or of this one. -/
def Allows (e : CatalogEntry) (field : String) : Prop :=
  field ∈ globalFilters ∨ field ∈ e.allowedFilters.keys

theorem permits_iff (e : CatalogEntry) (field : String) :
    e.permits field = true ↔ e.Allows field := by
  simp [permits, Allows, Dict.contains_iff_mem_keys]

end CatalogEntry

namespace Catalog

/-! ## The group keys of a request -/

/-- The keys that are added to those present: the wanted ones that the table has and that are not
present, each once and in the order in which they are wanted first. -/
structure AddedKeys (table : Table) (present wanted added : List String) : Prop where
  mem_iff : ∀ key, key ∈ added ↔
    key ∈ wanted ∧ (∃ column, table.column? key = some column) ∧ key ∉ present
  nodup : added.Nodup
  ordered : added.Pairwise fun a b => wanted.idxOf a < wanted.idxOf b

/-- A key in front moves the places of all other keys by one. -/
theorem ordered_cons
    {wanted added : List String} {field : String} (hfield : field ∉ added)
    (h : added.Pairwise fun a b => wanted.idxOf a < wanted.idxOf b) :
    added.Pairwise fun a b => (field :: wanted).idxOf a < (field :: wanted).idxOf b := by
  refine h.imp_of_mem ?_
  intro a b ha hb hlt
  have hane : field ≠ a := by
    rintro rfl
    exact hfield ha
  have hbne : field ≠ b := by
    rintro rfl
    exact hfield hb
  rw [List.idxOf_cons_ne _ hane, List.idxOf_cons_ne _ hbne]
  exact Nat.succ_lt_succ hlt

/-- A wanted key that is taken over stands in front of all that follow. -/
theorem AddedKeys.take
    {table : Table} {present wanted added : List String} {field : String} {column : Column}
    (hcolumn : table.column? field = some column) (hfresh : field ∉ present)
    (h : AddedKeys table (present ++ [field]) wanted added) :
    AddedKeys table present (field :: wanted) (field :: added) := by
  have hfield : field ∉ added := by
    intro hmem
    obtain ⟨-, -, hnew⟩ := (h.mem_iff field).mp hmem
    simp at hnew
  constructor
  · intro key
    by_cases hkey : key = field
    · subst hkey
      simp [hcolumn, hfresh]
    · simp [hkey, h.mem_iff key]
  · exact List.nodup_cons.mpr ⟨hfield, h.nodup⟩
  · rw [List.pairwise_cons]
    refine ⟨?_, ordered_cons hfield h.ordered⟩
    intro key hkey
    have hne : field ≠ key := by
      rintro rfl
      exact hfield hkey
    rw [List.idxOf_cons_self, List.idxOf_cons_ne _ hne]
    exact Nat.succ_pos _

/-- A wanted key that the table does not have or that is present is left out. -/
theorem AddedKeys.skip
    {table : Table} {present wanted added : List String} {field : String}
    (hskip : (∃ column, table.column? field = some column) → field ∈ present)
    (h : AddedKeys table present wanted added) :
    AddedKeys table present (field :: wanted) added := by
  have hfield : field ∉ added := by
    intro hmem
    obtain ⟨-, hcolumn, hfresh⟩ := (h.mem_iff field).mp hmem
    exact hfresh (hskip hcolumn)
  constructor
  · intro key
    by_cases hkey : key = field
    · subst hkey
      simp only [hfield, List.mem_cons_self, true_and, false_iff, not_and, not_not]
      exact hskip
    · simp [hkey, h.mem_iff key]
  · exact h.nodup
  · exact ordered_cons hfield h.ordered

/-- The keys that are there stay in front, and the added ones follow them. -/
theorem appendKeys_eq_append (table : Table) (present wanted : List String) :
    ∃ added, appendKeys table present wanted = present ++ added ∧
      AddedKeys table present wanted added := by
  induction wanted generalizing present with
  | nil =>
      refine ⟨[], by simp [appendKeys], ?_⟩
      constructor
      · simp
      · exact List.nodup_nil
      · exact List.Pairwise.nil
  | cons field rest ih =>
      by_cases htake : (∃ column, table.column? field = some column) ∧ field ∉ present
      · obtain ⟨⟨column, hcolumn⟩, hfresh⟩ := htake
        obtain ⟨added, happend, hadded⟩ := ih (present ++ [field])
        refine ⟨field :: added, ?_, hadded.take hcolumn hfresh⟩
        simp [appendKeys, hcolumn, hfresh, happend]
      · obtain ⟨added, happend, hadded⟩ := ih present
        have hskip : (∃ column, table.column? field = some column) → field ∈ present := by
          intro hcolumn
          by_contra hfresh
          exact htake ⟨hcolumn, hfresh⟩
        refine ⟨added, ?_, hadded.skip hskip⟩
        have hguard : ((table.column? field).isSome && !present.contains field) = false := by
          simpa [Option.isSome_iff_exists] using hskip
        rw [appendKeys, hguard]
        exact happend

/-! ## The policy -/

/-- What a request makes of the template of an entry that takes it. -/
structure Customized (table : Table) (template : Config) (request : Customization)
    (config : Config) : Prop where
  table_eq : config.table = template.table
  selects_eq : config.selects = template.selects
  timeBucket_eq : config.timeBucket = template.timeBucket
  filters_eq : config.filters =
    template.filters ++ request.filters.filter fun f => (table.column? f.field).isSome
  groupBy_eq : ∃ added, config.groupBy = template.groupBy ++ added ∧
    AddedKeys table template.groupBy request.groupBy added

theorem customized_customize (table : Table) (template : Config) (request : Customization) :
    Customized table template request (customize table template request) where
  table_eq := rfl
  selects_eq := rfl
  timeBucket_eq := rfl
  filters_eq := rfl
  groupBy_eq := appendKeys_eq_append table template.groupBy request.groupBy

theorem Customized.mem_filters
    {table : Table} {template config : Config} {request : Customization}
    (h : Customized table template request config) (f : Filter) :
    f ∈ config.filters ↔ f ∈ template.filters ∨
      f ∈ request.filters ∧ ∃ column, table.column? f.field = some column := by
  simp [h.filters_eq, Option.isSome_iff_exists]

theorem Customized.mem_groupBy
    {table : Table} {template config : Config} {request : Customization}
    (h : Customized table template request config) {key : String} (hkey : key ∈ config.groupBy) :
    key ∈ template.groupBy ∨ ∃ column, table.column? key = some column := by
  obtain ⟨added, hgroupBy, hadded⟩ := h.groupBy_eq
  rw [hgroupBy] at hkey
  rcases List.mem_append.mp hkey with hkey | hkey
  · exact Or.inl hkey
  · exact Or.inr ((hadded.mem_iff key).mp hkey).2.1

/-- What an entry answers to a request. -/
structure Policy (registry : Registry) (entry : CatalogEntry) (request : Customization)
    (answer : Except Error Config) : Prop where
  fixed : entry.customizable = false → answer = .ok (entry.template request.context)
  forbidden : entry.customizable = true → ∀ before f after,
    request.filters = before ++ f :: after → (∀ g ∈ before, entry.Allows g.field) →
      ¬ entry.Allows f.field → answer = .error (.filterNotPermitted entry.id f.field)
  untabled : entry.customizable = true → (∀ f ∈ request.filters, entry.Allows f.field) →
    registry.table? (entry.template request.context).table = none →
      answer = .ok (entry.template request.context)
  customized : entry.customizable = true → (∀ f ∈ request.filters, entry.Allows f.field) →
    ∀ table, registry.table? (entry.template request.context).table = some table →
      ∃ config, answer = .ok config ∧
        Customized table (entry.template request.context) request config

section ResolveEntry

variable {entry : CatalogEntry} {request : Customization}

theorem find?_of_not_allows
    {before after : List Filter} {f : Filter} (hfilters : request.filters = before ++ f :: after)
    (hbefore : ∀ g ∈ before, entry.Allows g.field) (hf : ¬ entry.Allows f.field) :
    (request.filters.find? fun f => !entry.permits f.field) = some f := by
  rw [List.find?_eq_some_iff_append]
  refine ⟨?_, before, after, hfilters, ?_⟩
  · simpa [← entry.permits_iff] using hf
  · intro g hg
    simpa [← entry.permits_iff] using hbefore g hg

theorem find?_of_allows (hallows : ∀ f ∈ request.filters, entry.Allows f.field) :
    (request.filters.find? fun f => !entry.permits f.field) = none := by
  rw [List.find?_eq_none]
  intro f hf
  simpa [← entry.permits_iff] using hallows f hf

variable {registry : Registry} {table : Table}

theorem resolveEntry_of_allows
    (hcustomizable : entry.customizable = true)
    (hallows : ∀ f ∈ request.filters, entry.Allows f.field)
    (htable : registry.table? (entry.template request.context).table = some table) :
    resolveEntry registry entry request =
      .ok (customize table (entry.template request.context) request) := by
  simp [resolveEntry, hcustomizable, find?_of_allows hallows, htable]

/-- A customizable entry resolves no filter that it does not allow. -/
theorem allows_of_resolveEntry_eq_ok
    (hcustomizable : entry.customizable = true) {config : Config}
    (h : resolveEntry registry entry request = .ok config) :
    ∀ f ∈ request.filters, entry.Allows f.field := by
  intro f hf
  simp only [resolveEntry, hcustomizable, Bool.not_true, Bool.false_eq_true, if_false] at h
  split at h
  · cases h
  · rename_i hpermitted
    simpa [← entry.permits_iff] using List.find?_eq_none.mp hpermitted f hf

theorem policy_resolveEntry (registry : Registry) (entry : CatalogEntry)
    (request : Customization) :
    Policy registry entry request (resolveEntry registry entry request) where
  fixed := by
    intro hfixed
    simp [resolveEntry, hfixed]
  forbidden := by
    intro hcustomizable before f after hfilters hbefore hf
    simp [resolveEntry, hcustomizable, find?_of_not_allows hfilters hbefore hf]
  untabled := by
    intro hcustomizable hallows htable
    simp [resolveEntry, hcustomizable, find?_of_allows hallows, htable]
  customized := by
    intro hcustomizable hallows table htable
    exact ⟨_, resolveEntry_of_allows hcustomizable hallows htable, customized_customize ..⟩

end ResolveEntry

/-- A known query is resolved by the policy of its entry. -/
theorem resolve_follows_policy
    {c : Catalog} {id : String} {entry : CatalogEntry} (h : c.get? id = some entry)
    (registry : Registry) (request : Customization) :
    Policy registry entry request (c.resolve registry id request) := by
  simp only [resolve, h]
  exact policy_resolveEntry registry entry request

/-- A request with a filter that the table of payments has no column for, and with group keys that
are present, unknown and wanted twice. -/
def paymentsRequest : Customization where
  context := ⟨.day, none⟩
  filters :=
    [⟨"browser_name", .eq, .scalar (.text "Chrome")⟩, ⟨"currency", .eq, .scalar (.text "EUR")⟩]
  groupBy := ["provider", "country", "no_such_column", "provider", "currency"]

/-- Of the two filters one is taken over, and of the five group keys two. -/
theorem paymentsRequest_follows_policy :
    ∃ entry, builtin.get? "revenue_by_country" = some entry ∧ entry.customizable = true ∧
      Policy Schema.registry entry paymentsRequest
        (builtin.resolve Schema.registry "revenue_by_country" paymentsRequest) ∧
      builtin.resolve Schema.registry "revenue_by_country" paymentsRequest = .ok
        { revenueBreakdown "country" with
          filters := [notEmpty "country", ⟨"currency", .eq, .scalar (.text "EUR")⟩]
          groupBy := ["country", "provider", "currency"] } := by
  have hget :
      builtin.get? "revenue_by_country" =
        some ((CatalogEntry.named "revenue_by_country" fun _ =>
          revenueBreakdown "country").allow ["currency", "provider"]) := rfl
  have hrevenue : Schema.revenue ∈ Schema.tables := by
    simp [Schema.tables]
  refine ⟨_, hget, rfl, resolve_follows_policy hget Schema.registry paymentsRequest, ?_⟩
  simp only [resolve, hget]
  rw [resolveEntry_of_allows rfl ?_ (Schema.table?_of_mem hrevenue)]
  · rfl
  · intro f hf
    rw [← CatalogEntry.permits_iff]
    revert f
    decide

end Catalog
end AnalyticsQuery
