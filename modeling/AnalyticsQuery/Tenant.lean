import AnalyticsQuery.Calendar
import AnalyticsQuery.Error
import AnalyticsQuery.Json.Decode
import AnalyticsQuery.Limits

/-!
# The tenant of a request

A request reads one website over a range of dates in a time zone.  What it
leaves out is filled in: the time zone is universal time, and the range is the
thirty days up to today.
-/

namespace AnalyticsQuery

/-- What a request says about its tenant. -/
structure TenantParams where
  websiteId : Option String
  startDate : Option String
  endDate : Option String
  timezone : Option String
deriving DecidableEq

namespace TenantParams

/-- Nothing is said. -/
def empty : TenantParams := ⟨none, none, none, none⟩

/-- A text that may be left out. -/
def textField (name : String) (aliases : List String) : Json.Field (Option String) :=
  .withDefault name aliases (Json.Decoder.optional Json.Decoder.string) none

/-- Tenant parameters in JSON, under both spellings of their names. -/
def decoder : Json.Decoder TenantParams :=
  Json.Decoder.refine
    (Json.Decoder.record "TenantParams"
      (.cons (textField "website_id" ["websiteId"])
      (.cons (textField "start_date" ["startDate"])
      (.cons (textField "end_date" ["endDate"])
      (.cons (textField "timezone" [])
      .nil)))))
    fun (websiteId, startDate, endDate, timezone, ()) =>
      .ok ⟨websiteId, startDate, endDate, timezone⟩

end TenantParams

/-- The website, range of dates and time zone of a request. -/
structure Tenant where
  websiteId : String
  startDate : String
  endDate : String
  timezone : String
deriving DecidableEq

/-- Why a request has no tenant. -/
inductive TenantFault
  | refused (error : Error)
  /-- The calendar does not reach back to the first day of the usual range. -/
  | beforeCalendar
deriving DecidableEq

namespace Tenant

/-- The time zone of a request that names none. -/
def defaultTimezone : String := "UTC"

/-- Whether a character may stand in the name of a time zone. -/
def isTimezoneChar (c : Char) : Bool :=
  c.isAlpha || c.isDigit || c ∈ ['_', '+', '-', '/']

/-- Whether a list of characters is the name of a time zone. -/
def isTimezone : List Char → Bool
  | [] => false
  | c :: rest => c.isAlpha && rest.all isTimezoneChar && rest.length < Limits.maxTimezoneLength

/-- The error of a name that is none of a time zone. -/
def invalidTimezone : Error := .invalidRequest "Invalid timezone"

/-- The time zone that a text names; no text and a blank one name the default. -/
def resolveTimezone (raw : Option String) : Except Error String :=
  let name := Text.stripWhere Text.isBlankChar (raw.getD "").toList
  if name.isEmpty then .ok defaultTimezone
  else if isTimezone name then .ok (String.ofList name)
  else .error invalidTimezone

/-- The last second of a day. -/
def lastSecond : List Char := " 23:59:59".toList

/-- The end of a range; a bare day is widened to its last second. -/
def inclusiveEnd (date : String) : String :=
  if Calendar.isDate date.toList then String.ofList (date.toList ++ lastSecond) else date

/-- The end of the range of a tenant, a bare day included. -/
def inclusiveEndDate (t : Tenant) : String :=
  inclusiveEnd t.endDate

/-- The error of a request that names no website. -/
def websiteRequired : Error := .invalidRequest "website_id is required"

/-- A text that is not blank. -/
def unlessBlank (s : Option String) : Option String :=
  s.filter fun s => !Text.isBlank s

/-- A text that is not empty. -/
def unlessEmpty (s : Option String) : Option String :=
  s.filter fun s => !s.isEmpty

/-- The first day of the range of a request. -/
def startOf (params : TenantParams) (today : Calendar.Date) : Except TenantFault String :=
  match unlessEmpty params.startDate with
  | some date => .ok date
  | none =>
      match today.before? Limits.defaultRangeDays with
      | some date => .ok date.text
      | none => .error .beforeCalendar

/-- The tenant of a request; a time zone in the header counts more than one in the parameters. -/
def resolve (params : TenantParams) (headerTimezone : Option String) (today : Calendar.Date) :
    Except TenantFault Tenant :=
  match unlessBlank params.websiteId with
  | none => .error (.refused websiteRequired)
  | some websiteId =>
      match resolveTimezone (headerTimezone <|> params.timezone) with
      | .error e => .error (.refused e)
      | .ok timezone =>
          match startOf params today with
          | .error fault => .error fault
          | .ok startDate =>
              .ok
                { websiteId := websiteId
                  startDate := startDate
                  endDate := (unlessEmpty params.endDate).getD today.text
                  timezone := timezone }

end Tenant
end AnalyticsQuery
