import AnalyticsQuery.Service.Caller

/-!
# Requests to compile

A request to compile holds the parts of a configuration and of its scope side
by side.  What it leaves out of the scope is taken from the caller.
-/

namespace AnalyticsQuery
namespace Service

/-- A configuration to be compiled, with its website and range. -/
structure CompileRequest where
  websiteId : Option String
  config : Config
  startDate : String
  endDate : String
  timezone : Option String
  limit : Option UInt32
  offset : Option UInt32

namespace CompileRequest

/-- Requests to compile in JSON. -/
def decoder : Json.Decoder CompileRequest :=
  Json.Decoder.refine
    (Json.Decoder.record "CompileRequest"
      (.cons (.withDefault "websiteId" ["projectId", "website_id"]
        (Json.Decoder.optional Json.Decoder.string) none)
      (.cons (.required "table" [] Json.Decoder.string)
      (.cons (.required "selects" [] (Json.Decoder.list Selection.decoder))
      (.cons (.withDefault "filters" [] (Json.Decoder.list Filter.decoder) [])
      (.cons (.withDefault "groupBy" [] (Json.Decoder.list Json.Decoder.string) [])
      (.cons (.required "startDate" [] Json.Decoder.string)
      (.cons (.required "endDate" [] Json.Decoder.string)
      (.cons (.withDefault "timeUnit" [] (Json.Decoder.optional TimeUnit.decoder) none)
      (.cons (.withDefault "timezone" [] (Json.Decoder.optional Json.Decoder.string) none)
      (.cons (.withDefault "limit" [] (Json.Decoder.optional Json.Decoder.uint32) none)
      (.cons (.withDefault "offset" [] (Json.Decoder.optional Json.Decoder.uint32) none)
      .nil))))))))))))
    fun (websiteId, table, selects, filters, groupBy, startDate, endDate, timeUnit, timezone,
        limit, offset, ()) =>
      .ok ⟨websiteId, ⟨table, selects, filters, groupBy, timeUnit⟩, startDate, endDate, timezone,
        limit, offset⟩

/-- The row limit that a request names; zero counts as none. -/
def wantedLimit (r : CompileRequest) : Option UInt32 :=
  r.limit.filter (0 < ·)

/-- The scope of a request; its own website and time zone count more than the caller's. -/
def scope (r : CompileRequest) (caller : Caller) : Except Refusal Scope :=
  if r.config.table.isEmpty then .error (.badRequest "table: Validation error: length")
  else
    match Tenant.unlessBlank r.websiteId <|> caller.websiteId with
    | none => .error (.badRequest "website_id is required")
    | some websiteId =>
        match Tenant.resolveTimezone (r.timezone <|> caller.timezone) with
        | .error e => .error (.ofError e)
        | .ok timezone =>
            .ok
              { websiteId := websiteId
                startDate := r.startDate
                endDate := r.endDate
                timezone := timezone
                limit := r.wantedLimit.getD Limits.defaultQueryLimit
                offset := r.offset.getD 0 }

end CompileRequest
end Service
end AnalyticsQuery
