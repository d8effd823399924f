import AnalyticsQuery.Json.Decode

/-!
# Units of time

Rows can be gathered by the hour or by the day of a time column.
-/

namespace AnalyticsQuery

/-- A unit of time that rows are gathered by. -/
inductive TimeUnit
  | hour
  | day
deriving DecidableEq, Repr

namespace TimeUnit

/-- The token of a unit. -/
def token : TimeUnit → String
  | hour => "hour"
  | day => "day"

/-- The tokens that are read as a unit. -/
def tokens : List (String × TimeUnit) :=
  [("hour", hour), ("hourly", hour), ("daily", day), ("day", day)]

/-- The unit that a row belongs to, for a time column and a time zone given as query text. -/
def bucketSql (unit : TimeUnit) (column timezone : String) : String :=
  match unit with
  | hour => "toStartOfHour(" ++ column ++ ", " ++ timezone ++ ")"
  | day => "toDate(" ++ column ++ ", " ++ timezone ++ ")"

/-- Units in JSON are tokens. -/
def decoder : Json.Decoder TimeUnit :=
  Json.Decoder.enumeration tokens

/-- A unit as a JSON value. -/
def json (unit : TimeUnit) : Json :=
  .str unit.token

end TimeUnit
end AnalyticsQuery
