import AnalyticsQuery.Limits
import AnalyticsQuery.Query.Config
import AnalyticsQuery.Schema.Basic
import AnalyticsQuery.Text.Quoted

/-!
# The catalog of named queries

A catalog holds named queries.  An entry makes its configuration from a
template, which may depend on the unit of time and the domain of the website,
and says which filters of a request it accepts.  Resolving a request applies
that policy: a fixed entry ignores the filters and group keys of the request, a
customizable one refuses a filter that is not permitted and takes over those
whose column its table has.
-/

namespace AnalyticsQuery

/-- What a template may depend on. -/
structure TemplateContext where
  timeUnit : TimeUnit
  /-- The domain of the website, where it is known. -/
  domain : Option String

/-- A named query. -/
structure CatalogEntry where
  id : String
  /-- The fields that its filters may name beside those of every entry. -/
  allowedFilters : Dict Unit
  customizable : Bool
  defaultLimit : UInt32
  template : TemplateContext → Config

namespace CatalogEntry

/-- The fields that the filters of every customizable entry may name. -/
def globalFilters : List String :=
  [ "path", "country", "device_type", "browser_name", "os_name", "referrer", "utm_source",
    "utm_medium", "utm_campaign" ]

/-- A customizable entry without filters of its own. -/
def named (id : String) (template : TemplateContext → Config) : CatalogEntry :=
  ⟨id, Dict.empty, true, Limits.defaultBatchLimit, template⟩

/-- The same entry with more fields that its filters may name. -/
def allow (e : CatalogEntry) (fields : List String) : CatalogEntry :=
  { e with allowedFilters := fields.foldl (fun d f => d.insert f ()) e.allowedFilters }

/-- The same entry, closed to filters and group keys of a request. -/
def asFixed (e : CatalogEntry) : CatalogEntry :=
  { e with customizable := false }

/-- The same entry with another row limit. -/
def limitedTo (e : CatalogEntry) (limit : UInt32) : CatalogEntry :=
  { e with defaultLimit := limit }

/-- Whether a filter of a request may name a field. -/
def permits (e : CatalogEntry) (field : String) : Bool :=
  globalFilters.contains field || e.allowedFilters.contains field

/-- A description of an entry without its template. -/
def summary (e : CatalogEntry) : String :=
  "QueryCatalogEntry \x7b id: " ++ Text.quoted e.id ++
    ", allowed_filters: \x7b" ++
    String.intercalate ", " (e.allowedFilters.keys.map Text.quoted) ++
    "\x7d, customizable: " ++ (if e.customizable then "true" else "false") ++
    ", default_limit: " ++ Decimal.natText e.defaultLimit.toNat ++ ", .. \x7d"

/-- The public facts about an entry as a JSON value. -/
def info (e : CatalogEntry) : Json :=
  .ofDict (Dict.ofList
    [ ("allowedFilters", .texts e.allowedFilters.keys),
      ("customizable", .bool e.customizable),
      ("defaultLimit", .ofUInt32 e.defaultLimit) ])

end CatalogEntry

/-- What a request asks of an entry. -/
structure Customization where
  context : TemplateContext
  filters : List Filter
  groupBy : List String

/-- A catalog of named queries. -/
structure Catalog where
  entries : Dict CatalogEntry

namespace Catalog

/-- The catalog of a list of entries; of two with one name the later counts. -/
def ofEntries (entries : List CatalogEntry) : Catalog :=
  ⟨Dict.ofList (entries.map fun e => (e.id, e))⟩

/-- The entry of a name. -/
def get? (c : Catalog) (id : String) : Option CatalogEntry :=
  c.entries.get? id

/-- The names of the entries in ascending order. -/
def ids (c : Catalog) : List String :=
  c.entries.keys

/-- The public facts about all entries as a JSON value. -/
def info (c : Catalog) : Json :=
  .ofDict (c.entries.map CatalogEntry.info)

/-- Append the keys that a table has and that are not there yet, one after another. -/
def appendKeys (table : Table) : List String → List String → List String
  | keys, [] => keys
  | keys, field :: rest =>
      if (table.column? field).isSome && !keys.contains field then
        appendKeys table (keys ++ [field]) rest
      else appendKeys table keys rest

/-- A configuration with the filters and group keys of a request that its table has. -/
def customize (table : Table) (config : Config) (request : Customization) : Config :=
  { config with
    filters := config.filters ++
      request.filters.filter fun f => (table.column? f.field).isSome
    groupBy := appendKeys table config.groupBy request.groupBy }

/-- The configuration of an entry for a request, under the policy of the entry. -/
def resolveEntry (registry : Registry) (entry : CatalogEntry) (request : Customization) :
    Except Error Config :=
  let config := entry.template request.context
  if !entry.customizable then .ok config
  else
    match request.filters.find? fun f => !entry.permits f.field with
    | some f => .error (.filterNotPermitted entry.id f.field)
    | none =>
        match registry.table? config.table with
        | none => .ok config
        | some table => .ok (customize table config request)

/-- The configuration of a named query for a request. -/
def resolve (c : Catalog) (registry : Registry) (id : String) (request : Customization) :
    Except Error Config :=
  match c.get? id with
  | none => .error (.unknownQueryType id)
  | some entry => resolveEntry registry entry request

end Catalog
end AnalyticsQuery
