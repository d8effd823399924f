/-!
# Points in time

Time is measured in seconds on a clock that never goes back, and without
rounding.
-/

namespace AnalyticsQuery

/-- A point in time, in seconds since some first one. -/
abbrev Moment := Rat

/-- A length of time in seconds. -/
abbrev Seconds := Rat

/-- The time from one point to another; none when that is the earlier one. -/
def Moment.until (start now : Moment) : Seconds :=
  if start ≤ now then now - start else 0

end AnalyticsQuery
