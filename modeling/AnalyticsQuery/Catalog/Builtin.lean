import AnalyticsQuery.Catalog.Basic

/-!
# The named queries of the analytics store

Twenty named queries over the tables of the analytics store.
-/

namespace AnalyticsQuery
namespace Catalog

/-- The count of all rows under a name. -/
def rows (name : String) : Selection :=
  ⟨wildcard, .count, some name⟩

/-- An aggregate over a column under a name. -/
def column (field : String) (aggregate : Aggregate) (name : String) : Selection :=
  ⟨field, aggregate, some name⟩

/-- The number of visitors. -/
def visitors : Selection :=
  column "anonymous_id" .uniq "visitors"

/-- The number of sessions. -/
def sessions : Selection :=
  column "session_id" .uniq "sessions"

/-- The filter that leaves out empty values. -/
def notEmpty (field : String) : Filter :=
  ⟨field, .ne, .scalar (.text "")⟩

/-- Row counts and visitors for each non-empty value of a column. -/
def breakdown (table field countName : String) : Config where
  table := table
  selects := [rows countName, visitors]
  filters := [notEmpty field]
  groupBy := [field]
  timeBucket := none

/-- Page views and visitors for each non-empty value of a column. -/
def pageviewBreakdown (field : String) : Config :=
  breakdown "pageviews" field "pageviews"

/-- Revenue, payments and customers for each non-empty value of a column. -/
def revenueBreakdown (field : String) : Config where
  table := "revenue"
  selects :=
    [column "amount" .sum "revenue", rows "transactions", column "anonymous_id" .uniq "customers"]
  filters := [notEmpty field]
  groupBy := [field]
  timeBucket := none

/-- The totals of a website. -/
def summaryMetrics : Config where
  table := "pageviews"
  selects := [rows "pageviews", visitors, sessions, column "time_on_page" .avg "avg_time_on_page"]
  filters := []
  groupBy := []
  timeBucket := none

/-- The totals of a website by units of time. -/
def eventsByDate (unit : TimeUnit) : Config where
  table := "pageviews"
  selects := [rows "pageviews", visitors, sessions]
  filters := []
  groupBy := []
  timeBucket := some unit

/-- Referrers outside the domain of the website, where that is known. -/
def topReferrers (domain : Option String) : Config :=
  let config := pageviewBreakdown "referrer"
  { config with
    filters := config.filters ++
      domain.toList.map fun d => ⟨"referrer", .notContains, .scalar (.text d)⟩ }

/-- Measured values for each metric. -/
def webVitals : Config where
  table := "web_vitals_spans"
  selects :=
    [ column "metric_value" .avg "avg_value",
      column "metric_value" .max "max_value",
      rows "samples" ]
  filters := []
  groupBy := ["metric_name"]
  timeBucket := none

/-- How far the pages are scrolled that are scrolled at all. -/
def scrollDepthSummary : Config where
  table := "pageviews"
  selects := [column "scroll_depth" .avg "avg_scroll_depth", rows "pageviews"]
  filters := [⟨"scroll_depth", .gt, .scalar (.number .zero)⟩]
  groupBy := []
  timeBucket := none

/-- All named queries. -/
def builtinEntries : List CatalogEntry :=
  [ (CatalogEntry.named "summary_metrics" fun _ => summaryMetrics).limitedTo 1,
    (CatalogEntry.named "events_by_date" fun c => eventsByDate c.timeUnit).limitedTo 1000,
    CatalogEntry.named "top_pages" fun _ => pageviewBreakdown "path",
    CatalogEntry.named "top_referrers" fun c => topReferrers c.domain,
    CatalogEntry.named "utm_sources" fun _ => pageviewBreakdown "utm_source",
    CatalogEntry.named "utm_mediums" fun _ => pageviewBreakdown "utm_medium",
    CatalogEntry.named "utm_campaigns" fun _ => pageviewBreakdown "utm_campaign",
    CatalogEntry.named "country" fun _ => pageviewBreakdown "country",
    (CatalogEntry.named "region" fun _ => pageviewBreakdown "region").allow ["region"],
    CatalogEntry.named "browser_name" fun _ => pageviewBreakdown "browser_name",
    CatalogEntry.named "os_name" fun _ => pageviewBreakdown "os_name",
    CatalogEntry.named "device_type" fun _ => pageviewBreakdown "device_type",
    (CatalogEntry.named "custom_events" fun _ =>
      breakdown "custom_event_spans" "event_name" "events").allow ["event_name"],
    (CatalogEntry.named "error_types" fun _ =>
      breakdown "error_spans" "error_type" "errors").allow ["error_type", "message"],
    (CatalogEntry.named "errors_by_page" fun _ =>
      breakdown "error_spans" "path" "errors").allow ["error_type"],
    (CatalogEntry.named "web_vitals" fun _ => webVitals).allow ["metric_name"],
    (CatalogEntry.named "outbound_links" fun _ =>
      breakdown "outgoing_links" "href" "clicks").allow ["href"],
    (CatalogEntry.named "scroll_depth_summary" fun _ => scrollDepthSummary).asFixed.limitedTo 1,
    (CatalogEntry.named "revenue_by_country" fun _ =>
      revenueBreakdown "country").allow ["currency", "provider"],
    (CatalogEntry.named "revenue_by_provider" fun _ =>
      revenueBreakdown "provider").allow ["currency", "provider"] ]

/-- The catalog of all named queries. -/
def builtin : Catalog :=
  ofEntries builtinEntries

end Catalog
end AnalyticsQuery
