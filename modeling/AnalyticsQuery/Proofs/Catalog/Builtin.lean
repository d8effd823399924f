import AnalyticsQuery.Catalog.Builtin
import AnalyticsQuery.Proofs.Catalog.Resolution
import AnalyticsQuery.Schema.Builtin

/-!
# The built-in catalog is sound

The twenty built-in entries are sound for the tables of the analytics store in
every context.  Where the domain of the website is not known, there are only two
contexts, and the check of the entries is computed.  A known domain is looked at
by one entry only, which compares it with a column that it filters anyway.

* `template_of_domain`: the templates that look at the domain.
* `isSoundIn_of_get?`: every entry of the built-in catalog is sound, and it is
  found under its own name.
-/

namespace AnalyticsQuery

open Validation

/-- A column that one filter may name can be compared with any text. -/
theorem Validation.checkFilter_text
    {table : Table} {f : Filter} (h : checkFilter table f = .ok ())
    {operator : Operator} (hoperator : operator.family = .pattern) (text : String) :
    checkFilter table ⟨f.field, operator, .scalar (.text text)⟩ = .ok () := by
  unfold checkFilter at h ⊢
  split at h
  · cases h
  · split at h
    · cases h
    · rename_i hcolumn hopen
      simp [hcolumn, hopen, FilterValue.isList, checkValue, hoperator]

namespace Catalog

/-- A known domain changes no template but that of the referrers. -/
theorem template_of_domain :
    ∀ e ∈ builtinEntries, ∀ unit domain,
      e.template ⟨unit, some domain⟩ = e.template ⟨unit, none⟩ ∨
        e.id = "top_referrers" ∧ e.template ⟨unit, none⟩ = topReferrers none ∧
          e.template ⟨unit, some domain⟩ = topReferrers (some domain) := by
  simp [builtinEntries, CatalogEntry.named, CatalogEntry.limitedTo, CatalogEntry.allow,
    CatalogEntry.asFixed]

theorem passes_of_mem_builtinEntries :
    ∀ e ∈ builtinEntries, ∀ unit ∈ [TimeUnit.hour, TimeUnit.day],
      e.passes Schema.registry ⟨unit, none⟩ = true := by
  decide +kernel

/-- Leaving out the referrers of a domain is valid where leaving out the empty ones is. -/
theorem validate_topReferrers
    {registry : Registry} (h : (topReferrers none).validate registry = .ok ()) (domain : String) :
    (topReferrers (some domain)).validate registry = .ok () := by
  obtain ⟨table, htable, hselects, hfilters, hkeys⟩ := Config.validate_eq_ok_iff.mp h
  rw [Config.validate_eq_ok_iff]
  refine ⟨table, htable, hselects, ?_, hkeys⟩
  have hempty : checkFilter table (notEmpty "referrer") = .ok () :=
    checkAll_eq_ok_iff.mp hfilters _ List.mem_cons_self
  have hpattern : Operator.notContains.family = .pattern := rfl
  have hdomain := checkFilter_text hempty hpattern domain
  have hall :
      checkAll (checkFilter table) (topReferrers (some domain)).filters = .ok () := by
    rw [checkAll_eq_ok_iff]
    intro f hf
    rcases List.mem_append.mp hf with hf | hf
    · rw [List.mem_singleton.mp hf]
      exact hempty
    · rw [List.mem_singleton.mp hf]
      exact hdomain
  exact hall

theorem isSoundIn_of_mem_builtinEntries
    {e : CatalogEntry} (he : e ∈ builtinEntries) (context : TemplateContext) :
    e.IsSoundIn Schema.registry context := by
  obtain ⟨unit, domain⟩ := context
  have hunit : unit ∈ [TimeUnit.hour, TimeUnit.day] := by
    cases unit <;> simp
  -- The check is computed where no domain is known; a known one changes one template only.
  have hsound := CatalogEntry.IsSoundIn.of_passes (passes_of_mem_builtinEntries e he unit hunit)
  cases domain with
  | none => exact hsound
  | some domain =>
      obtain ⟨hvalid, hopens⟩ := hsound
      rcases template_of_domain e he unit domain with hsame | ⟨-, hnone, hsome⟩
      · rw [← hsame] at hvalid hopens
        exact ⟨hvalid, hopens⟩
      · rw [hnone] at hvalid hopens
        constructor
        · rw [hsome]
          exact validate_topReferrers hvalid domain
        · rw [hsome]
          exact hopens

/-- An entry that a catalog has under a name is one of those that it was made from, under its own
name. -/
theorem of_get?_ofEntries
    {entries : List CatalogEntry} {id : String} {e : CatalogEntry}
    (h : (ofEntries entries).get? id = some e) :
    e ∈ entries ∧ e.id = id := by
  obtain ⟨e', he', heq⟩ := List.mem_map.mp (Dict.mem_of_get?_ofList h)
  cases heq
  exact ⟨he', rfl⟩

/-- A catalog has all of its entries when no two of them have one name. -/
theorem get?_ofEntries
    {entries : List CatalogEntry} (hids : (entries.map CatalogEntry.id).Nodup) {e : CatalogEntry}
    (he : e ∈ entries) : (ofEntries entries).get? e.id = some e := by
  have hkeys : ((entries.map fun e => (e.id, e)).map Prod.fst).Nodup := by
    rw [List.map_map]
    exact hids
  exact Dict.get?_ofList_of_mem hkeys (List.mem_map_of_mem he)

theorem nodup_builtinEntries : (builtinEntries.map CatalogEntry.id).Nodup := by
  decide

theorem isSoundIn_of_get?
    {id : String} {e : CatalogEntry} (h : builtin.get? id = some e) (context : TemplateContext) :
    e.IsSoundIn Schema.registry context ∧ e.id = id := by
  obtain ⟨he, hid⟩ := of_get?_ofEntries h
  exact ⟨isSoundIn_of_mem_builtinEntries he context, hid⟩

end Catalog
end AnalyticsQuery
