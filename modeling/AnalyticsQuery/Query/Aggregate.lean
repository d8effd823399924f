import AnalyticsQuery.Error
import AnalyticsQuery.Json.Decode

/-!
# Aggregate functions

The aggregate functions form a closed set; a token outside it is refused where
it is read.
-/

namespace AnalyticsQuery

/-- An aggregate function. -/
inductive Aggregate
  | count
  | uniq
  | sum
  | avg
  | max
  | min
deriving DecidableEq, Repr

namespace Aggregate

/-- The token of an aggregate function, which is also its name in a query. -/
def token : Aggregate → String
  | count => "count"
  | uniq => "uniq"
  | sum => "sum"
  | avg => "avg"
  | max => "max"
  | min => "min"

/-- The aggregate function of a token. -/
def ofToken? : String → Option Aggregate
  | "count" => some count
  | "uniq" => some uniq
  | "sum" => some sum
  | "avg" => some avg
  | "max" => some max
  | "min" => some min
  | _ => none

/-- The aggregate function of a token, or why there is none. -/
def ofToken (token : String) : Except Error Aggregate :=
  match ofToken? token with
  | some a => .ok a
  | none => .error (.unsupportedAggregate token)

/-- Whether an aggregate function counts, so that it applies to every column. -/
def countsRows : Aggregate → Bool
  | count => true
  | uniq => true
  | _ => false

/-- The call of an aggregate function on a column, or on all rows. -/
def sql (a : Aggregate) (column : Option String) : String :=
  a.token ++ "(" ++ column.getD "" ++ ")"

/-- Aggregate functions in JSON are their tokens. -/
def decoder : Json.Decoder Aggregate :=
  Json.Decoder.refine Json.Decoder.string fun token =>
    (ofToken token).mapError fun e => .rejected e.message

/-- An aggregate function as a JSON value. -/
def json (a : Aggregate) : Json :=
  .str a.token

end Aggregate
end AnalyticsQuery
