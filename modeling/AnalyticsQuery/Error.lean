/-!
# Errors of the query engine

A query configuration that breaks a rule of the schema is a validation error
of one of twelve kinds.  Every other failure is named by its cause.  Each error
has a message, a stable code, a coarse family and a response status.
-/

namespace AnalyticsQuery

/-- The rules that a query configuration can break. -/
inductive ValidationKind
  | unknownTable
  | unknownColumn
  | unknownFilterColumn
  | aggregateNotAllowed
  | wildcardRequiresCount
  | filterNotAllowed
  | tooManySelects
  | emptySelects
  | tooManyFilters
  | tooManyGroupBy
  | unknownGroupByColumn
  | invalidFilterValue
deriving DecidableEq, Repr

/-- The stable code of a broken rule. -/
def ValidationKind.code : ValidationKind → String
  | unknownTable => "QUERY_001"
  | unknownColumn => "QUERY_002"
  | unknownFilterColumn => "QUERY_003"
  | aggregateNotAllowed => "QUERY_004"
  | wildcardRequiresCount => "QUERY_005"
  | filterNotAllowed => "QUERY_006"
  | tooManySelects => "QUERY_007"
  | emptySelects => "QUERY_008"
  | tooManyFilters => "QUERY_009"
  | tooManyGroupBy => "QUERY_010"
  | unknownGroupByColumn => "QUERY_011"
  | invalidFilterValue => "QUERY_012"

/-- A broken rule, described, with the part of the configuration that breaks it. -/
structure ValidationError where
  kind : ValidationKind
  message : String
  field : Option String
deriving DecidableEq, Repr

/-- The families of errors. -/
inductive ErrorKind
  /-- A query of a wrong shape, found before any query text was made. -/
  | validation
  /-- A request that is malformed or not permitted. -/
  | request
  /-- The store failed. -/
  | execution
  | internal
deriving DecidableEq, Repr

/-- Why the engine refuses a request or fails on it. -/
inductive Error
  | validation (error : ValidationError)
  | unsupportedAggregate (token : String)
  | unsupportedOperator (token : String)
  | unknownQueryType (id : String)
  | filterNotPermitted (parameter field : String)
  | invalidRequest (reason : String)
  | execution (reason : String)
  | serialization (reason : String)
  | internal (reason : String)
deriving DecidableEq, Repr

namespace Error

/-- The wording of an error. -/
def message : Error → String
  | validation e => e.message
  | unsupportedAggregate token => "Unknown aggregate function: " ++ token
  | unsupportedOperator token => "Unknown operator: " ++ token
  | unknownQueryType id => "Unknown query type: " ++ id
  | filterNotPermitted parameter field =>
      "Filter on field '" ++ field ++ "' is not permitted for " ++ parameter
  | invalidRequest reason => "invalid request: " ++ reason
  | execution reason => "Query execution failed: " ++ reason
  | serialization reason => "serialization error: " ++ reason
  | internal reason => "internal error: " ++ reason

/-- The family of an error. -/
def kind : Error → ErrorKind
  | validation _ => .validation
  | unsupportedAggregate _ => .validation
  | unsupportedOperator _ => .validation
  | unknownQueryType _ => .request
  | filterNotPermitted _ _ => .request
  | invalidRequest _ => .request
  | serialization _ => .request
  | execution _ => .execution
  | internal _ => .internal

/-- The stable code of an error. -/
def code : Error → String
  | validation e => e.kind.code
  | unsupportedAggregate _ => "QUERY_020"
  | unsupportedOperator _ => "QUERY_021"
  | unknownQueryType _ => "QUERY_030"
  | filterNotPermitted _ _ => "QUERY_031"
  | invalidRequest _ => "REQ_001"
  | serialization _ => "REQ_001"
  | execution _ => "EXEC_001"
  | internal _ => "INTERNAL"

/-- The response status of an error. -/
def status (e : Error) : Nat :=
  match e.kind with
  | .validation => 400
  | .request => 400
  | .execution => 502
  | .internal => 500

end Error
end AnalyticsQuery
