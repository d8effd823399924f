/-!
# Limits

Bounds on the work that one request can ask of the store.
-/

namespace AnalyticsQuery
namespace Limits

/-- The greatest number of select expressions of a query. -/
def maxSelects : Nat := 10

/-- The greatest number of filters of a query, those of its template included. -/
def maxFilters : Nat := 20

/-- The greatest number of group keys of a query. -/
def maxGroupKeys : Nat := 5

/-- The row limit of a free query that names none. -/
def defaultQueryLimit : UInt32 := 1000

/-- The greatest row limit of a compiled query. -/
def maxQueryLimit : UInt32 := 10000

/-- The row limit of a catalog parameter where neither request nor entry names one. -/
def defaultBatchLimit : UInt32 := 100

/-- The greatest number of catalog parameters in one request. -/
def maxBatchParameters : Nat := 50

/-- The greatest number of requests in one explicit batch. -/
def maxBatchRequests : Nat := 20

/-- The days of the reporting window of a request that names no dates. -/
def defaultRangeDays : Nat := 30

/-- The greatest length of the name of a time zone. -/
def maxTimezoneLength : Nat := 64

/-- A requested row limit, cut off at the greatest one. -/
def clamp (requested : UInt32) : UInt32 :=
  if requested ≤ maxQueryLimit then requested else maxQueryLimit

end Limits
end AnalyticsQuery
