import AnalyticsQuery.Schema.Basic

/-!
# The tables of the analytics store

Six tables of one database: page views, custom events, errors, web vitals,
outgoing links and payments.
-/

namespace AnalyticsQuery
namespace Schema

/-- The database of all tables. -/
def database : String := "analytics"

/-- The columns that tell visits apart. -/
def visitColumns : List Column :=
  [ .identifier "client_id",
    .identifier "anonymous_id",
    (Column.identifier "session_id").asFilterable ]

/-- Page views with visitor, session, device and acquisition context. -/
def pageviews : Table :=
  ((Table.declare "pageviews" database "client_id" "time").describe
    "Page views with visitor, session, device and acquisition context").withColumns
    (visitColumns ++
      [ .timestamp "time",
        .dimension "path",
        .dimension "url",
        .dimension "title",
        .dimension "referrer",
        .dimension "country",
        .dimension "region",
        .dimension "city",
        .category "device_type",
        .dimension "browser_name",
        .dimension "os_name",
        .dimension "language",
        .dimension "utm_source",
        .dimension "utm_medium",
        .dimension "utm_campaign",
        .metric "time_on_page",
        .metric "scroll_depth",
        .metric "load_time",
        .metric "ttfb" ])

/-- Custom tracked events such as button clicks and form submissions. -/
def customEventSpans : Table :=
  ((Table.declare "custom_event_spans" database "client_id" "timestamp").describe
    "Custom tracked events such as button clicks and form submissions").withColumns
    (visitColumns ++
      [ .timestamp "timestamp",
        .dimension "path",
        .dimension "event_name",
        .identifier "properties" ])

/-- JavaScript errors and exceptions. -/
def errorSpans : Table :=
  ((Table.declare "error_spans" database "client_id" "timestamp").describe
    "JavaScript errors and exceptions").withColumns
    (visitColumns ++
      [ .timestamp "timestamp",
        .dimension "path",
        .dimension "message",
        .dimension "filename",
        .dimension "error_type",
        .metric "lineno",
        .metric "colno",
        .identifier "stack" ])

/-- Core Web Vitals measurements (FCP, LCP, CLS, INP, TTFB, FPS). -/
def webVitalsSpans : Table :=
  ((Table.declare "web_vitals_spans" database "client_id" "timestamp").describe
    "Core Web Vitals measurements (FCP, LCP, CLS, INP, TTFB, FPS)").withColumns
    (visitColumns ++
      [ .timestamp "timestamp",
        .dimension "path",
        .category "metric_name",
        .metric "metric_value" ])

/-- External links clicked by visitors. -/
def outgoingLinks : Table :=
  ((Table.declare "outgoing_links" database "client_id" "timestamp").describe
    "External links clicked by visitors").withColumns
    (visitColumns ++
      [ .timestamp "timestamp",
        .dimension "path",
        .dimension "href",
        .dimension "text" ])

/-- Payment transactions attributed to visitors. -/
def revenue : Table :=
  ((Table.declare "revenue" database "client_id" "created_at").describe
    "Payment transactions attributed to visitors").withColumns
    (visitColumns ++
      [ .identifier "transaction_id",
        .timestamp "created_at",
        .metric "amount",
        .category "currency",
        .category "provider",
        .category "type",
        .dimension "country" ])

/-- All tables. -/
def tables : List Table :=
  [pageviews, customEventSpans, errorSpans, webVitalsSpans, outgoingLinks, revenue]

/-- The registry of all tables. -/
def registry : Registry :=
  match Registry.ofTables tables with
  | .ok r => r
  | .error _ => ⟨Dict.empty⟩

end Schema
end AnalyticsQuery
