import AnalyticsQuery.Service.RateLimiter
import AnalyticsQuery.Service.Response
import AnalyticsQuery.Monitor.Health
import AnalyticsQuery.Monitor.Metrics
import AnalyticsQuery.Website.Cache

/-!
# The state of the service

Between two requests the service keeps the buckets of its callers, the domains
it has asked for, its counters and the health of what it depends on.  Beside
the response, an exchange gives the calls that the store received, the answers
that the directory of websites gave, and the state after it.
-/

namespace AnalyticsQuery
namespace Service

/-- What the service works with: its engine, its store and its directory of websites. -/
structure Backend where
  engine : Engine
  store : Store
  ask : Website.Inquiry

/-- When a request arrives. -/
structure Arrival where
  now : Moment
  today : Calendar.Date

/-- What the service keeps between two requests. -/
structure State where
  limiter : RateLimiter
  domains : Website.DomainCache
  metrics : Monitor.Metrics
  health : Monitor.Health

namespace State

/-- The state of a service that has just come up and can reach everything. -/
def start (limit : RateLimit) : State where
  limiter := .start limit
  domains := .start .standard
  metrics := .empty
  health := .good

/-- Add one to a counter. -/
def count (s : State) (c : Monitor.Counter) : State :=
  { s with metrics := s.metrics.count c }

end State

/-- What has been asked of the directory of websites in the course of a request. -/
structure Consultation where
  domains : Website.DomainCache
  answers : List Website.Answer

namespace Consultation

/-- Ask for the domain of a website, through the cache. -/
def ask (inquiry : Website.Inquiry) (now : Moment) : Directory Consultation := fun id c =>
  let l := c.domains.lookup inquiry now id
  (l.domain, ⟨l.cache, c.answers ++ l.answers⟩)

end Consultation

/-- The state after the directory of websites has been asked. -/
def State.consulted (s : State) (c : Consultation) : State :=
  { s with
    domains := c.domains
    health := Website.healthAfter s.health c.answers }

/-- What a request leads to. -/
structure Exchange where
  response : Response
  calls : List CompiledQuery
  answers : List Website.Answer
  state : State

namespace Exchange

/-- A response for which nothing was asked of the store or the directory. -/
def answer (s : State) (response : Response) : Exchange :=
  ⟨response, [], [], s⟩

/-- A refusal for which nothing was asked of the store or the directory. -/
def refuse (s : State) (r : Refusal) : Exchange :=
  answer s r.response

/-- An exchange with a changed response. -/
def mapResponse (f : Response → Response) (e : Exchange) : Exchange :=
  { e with response := f e.response }

end Exchange
end Service
end AnalyticsQuery
