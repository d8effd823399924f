/-!
# Settings of the event log

The log has a filter, given by directives, and writes its events either as
lines of text or as one JSON object each.
-/

namespace AnalyticsQuery
namespace Monitor

/-- Settings of the event log. -/
structure LogSettings where
  filter : String
  json : Bool
deriving DecidableEq, Repr

namespace LogSettings

/-- The directives of a log that nobody has set up. -/
def defaultFilter : String := "info,tower_http=info"

/-- The settings of a log that nobody has set up. -/
def standard : LogSettings := ⟨defaultFilter, false⟩

/-- The settings with other directives. -/
def withFilter (t : LogSettings) (filter : String) : LogSettings :=
  { t with filter := filter }

/-- The settings with another form of the events. -/
def withJson (t : LogSettings) (json : Bool) : LogSettings :=
  { t with json := json }

end LogSettings
end Monitor
end AnalyticsQuery
