import AnalyticsQuery.Json.Basic
import AnalyticsQuery.Monitor.Histogram

/-!
# Counters of the service

Every counter is a 64-bit word that only grows, until it wraps.  Beside the
counters stands the histogram of the times that the store took.  The main
statement is `get_add`: adding to a counter changes that counter alone.
-/

namespace AnalyticsQuery
namespace Monitor

/-- What is counted. -/
inductive Counter
  | batchRequests
  | customQueries
  | compileRequests
  | rateLimitedRequests
  | parametersExecuted
  | parameterFailures
  | queriesCompiled
  | validationFailures
  | executionErrors
deriving DecidableEq, Repr

namespace Counter

/-- All counters. -/
def all : List Counter :=
  [ batchRequests, customQueries, compileRequests, rateLimitedRequests, parametersExecuted,
    parameterFailures, queriesCompiled, validationFailures, executionErrors ]

/-- The name of a counter. -/
def name : Counter → String
  | batchRequests => "batch_requests"
  | customQueries => "custom_queries"
  | compileRequests => "compile_requests"
  | rateLimitedRequests => "rate_limited_requests"
  | parametersExecuted => "parameters_executed"
  | parameterFailures => "parameter_failures"
  | queriesCompiled => "queries_compiled"
  | validationFailures => "validation_failures"
  | executionErrors => "execution_errors"

/-- The counter with a given name. -/
def ofName? (s : String) : Option Counter :=
  all.find? fun c => c.name == s

theorem ofName?_name (c : Counter) : ofName? c.name = some c := by
  cases c <;> decide

end Counter

/-- The values of the counters and the times that the store took. -/
structure Metrics where
  batchRequests : UInt64
  customQueries : UInt64
  compileRequests : UInt64
  rateLimitedRequests : UInt64
  parametersExecuted : UInt64
  parameterFailures : UInt64
  queriesCompiled : UInt64
  validationFailures : UInt64
  executionErrors : UInt64
  latency : Histogram
deriving DecidableEq, Repr

namespace Metrics

/-- Nothing has been counted. -/
def empty : Metrics :=
  ⟨0, 0, 0, 0, 0, 0, 0, 0, 0, .empty⟩

/-- The value of a counter. -/
def get (m : Metrics) : Counter → UInt64
  | .batchRequests => m.batchRequests
  | .customQueries => m.customQueries
  | .compileRequests => m.compileRequests
  | .rateLimitedRequests => m.rateLimitedRequests
  | .parametersExecuted => m.parametersExecuted
  | .parameterFailures => m.parameterFailures
  | .queriesCompiled => m.queriesCompiled
  | .validationFailures => m.validationFailures
  | .executionErrors => m.executionErrors

/-- Add to a counter. -/
def add (m : Metrics) (c : Counter) (n : UInt64) : Metrics :=
  match c with
  | .batchRequests => { m with batchRequests := m.batchRequests + n }
  | .customQueries => { m with customQueries := m.customQueries + n }
  | .compileRequests => { m with compileRequests := m.compileRequests + n }
  | .rateLimitedRequests => { m with rateLimitedRequests := m.rateLimitedRequests + n }
  | .parametersExecuted => { m with parametersExecuted := m.parametersExecuted + n }
  | .parameterFailures => { m with parameterFailures := m.parameterFailures + n }
  | .queriesCompiled => { m with queriesCompiled := m.queriesCompiled + n }
  | .validationFailures => { m with validationFailures := m.validationFailures + n }
  | .executionErrors => { m with executionErrors := m.executionErrors + n }

/-- Add one to a counter. -/
def count (m : Metrics) (c : Counter) : Metrics :=
  m.add c 1

/-- Record the time that the store took for a query, and whether it failed. -/
def recordExecution (m : Metrics) (ms : UInt64) (failed : Bool) : Metrics :=
  let m := { m with latency := m.latency.observe ms }
  if failed then m.count .executionErrors else m

/-- The members of a snapshot: all counters, the number of executions and their mean time. -/
def snapshot (m : Metrics) : List (String × Number) :=
  (Counter.all.map fun c => (c.name, Number.ofUInt64 (m.get c))) ++
    [ ("executions", Number.ofUInt64 m.latency.count),
      ("execution_latency_mean_ms", Number.float m.latency.mean) ]

/-- A snapshot as a JSON value. -/
def json (m : Metrics) : Json :=
  .ofDict (Dict.ofList (m.snapshot.map fun e => (e.1, .num e.2)))

@[simp]
theorem get_add (m : Metrics) (c d : Counter) (n : UInt64) :
    (m.add c n).get d = if c = d then m.get d + n else m.get d := by
  cases c <;> cases d <;> simp [add, get]

@[simp]
theorem latency_add (m : Metrics) (c : Counter) (n : UInt64) :
    (m.add c n).latency = m.latency := by
  cases c <;> rfl

end Metrics
end Monitor
end AnalyticsQuery
