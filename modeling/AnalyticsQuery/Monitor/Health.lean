import AnalyticsQuery.Json.Basic

/-!
# Health of the service

The service depends on the store and on the directory of websites.  The store
is required; without the directory, queries still run and only the domain of
the website is unknown to them.  Each component is healthy or not, and keeps
the message of its last failure until it succeeds again.
-/

namespace AnalyticsQuery
namespace Monitor

/-- What the service depends on. -/
inductive Component
  | store
  | websiteDirectory
deriving DecidableEq, Repr

namespace Component

/-- All components. -/
def all : List Component := [store, websiteDirectory]

/-- The name of a component. -/
def name : Component → String
  | store => "clickhouse"
  | websiteDirectory => "website_directory"

/-- Whether the service can answer no query without a component. -/
def required : Component → Bool
  | store => true
  | websiteDirectory => false

end Component

/-- The state of a component. -/
structure Condition where
  healthy : Bool
  message : Option String
deriving DecidableEq, Repr

namespace Condition

/-- Nothing is known of the component yet. -/
def unknown : Condition := ⟨false, none⟩

/-- The component has succeeded. -/
def good : Condition := ⟨true, none⟩

/-- The component has failed. -/
def bad (message : String) : Condition := ⟨false, some message⟩

/-- The condition of a component by the message of its last failure, if the last use failed. -/
def ofFailure : Option String → Condition
  | none => good
  | some message => bad message

end Condition

/-- The state of all components. -/
structure Health where
  store : Condition
  websiteDirectory : Condition
deriving DecidableEq, Repr

/-- The overall state of the service. -/
inductive HealthStatus
  | healthy
  /-- All required components are healthy, and some other is not. -/
  | degraded
  | unhealthy
deriving DecidableEq, Repr

namespace HealthStatus

/-- The wording of a state. -/
def text : HealthStatus → String
  | healthy => "healthy"
  | degraded => "degraded"
  | unhealthy => "unhealthy"

/-- Whether the service answers queries. -/
def isServing : HealthStatus → Bool
  | healthy => true
  | degraded => true
  | unhealthy => false

end HealthStatus

namespace Health

/-- Nothing is known of any component yet. -/
def unknown : Health := ⟨.unknown, .unknown⟩

/-- All components are healthy. -/
def good : Health := ⟨.good, .good⟩

/-- The state of a component. -/
def get (h : Health) : Component → Condition
  | .store => h.store
  | .websiteDirectory => h.websiteDirectory

/-- Set the state of a component. -/
def set (h : Health) (c : Component) (condition : Condition) : Health :=
  match c with
  | .store => { h with store := condition }
  | .websiteDirectory => { h with websiteDirectory := condition }

/-- Whether every required component is healthy. -/
def isReady (h : Health) : Bool :=
  Component.all.all fun c => !c.required || (h.get c).healthy

/-- The overall state of the service. -/
def status (h : Health) : HealthStatus :=
  if Component.all.all fun c => (h.get c).healthy then .healthy
  else if h.isReady then .degraded
  else .unhealthy

/-- Whether the service runs at all, which it does as long as it answers. -/
def isAlive (_ : Health) : Bool := true

/-- The report on a component as a JSON value. -/
def componentJson (h : Health) (c : Component) : Json :=
  let condition := h.get c
  .ofDict (Dict.ofList
    ([("name", .str c.name), ("healthy", .bool condition.healthy)] ++
      condition.message.toList.map fun m => ("message", .str m)))

/-- The members of the report on all components. -/
def report (h : Health) : List (String × Json) :=
  [ ("status", .str h.status.text),
    ("components", .arr (Component.all.map h.componentJson)) ]

end Health
end Monitor
end AnalyticsQuery
