import AnalyticsQuery.Query.Compilation
import AnalyticsQuery.Query.Config
import AnalyticsQuery.Tenant

/-!
# Requests to the engine

A request names parameters of the catalog, or it is a free query that brings
its own configuration.  A limit or a page of zero counts as none.
-/

namespace AnalyticsQuery

/-- A request for parameters of the catalog. -/
structure BatchRequest where
  id : Option String
  parameters : List String
  filters : List Filter
  granularity : Option String
  groupBy : List String
  limit : Option UInt32
  page : Option UInt32

namespace BatchRequest

/-- Requests in JSON. -/
def decoder : Json.Decoder BatchRequest :=
  Json.Decoder.refine
    (Json.Decoder.record "DynamicQueryRequest"
      (.cons (.withDefault "id" [] (Json.Decoder.optional Json.Decoder.string) none)
      (.cons (.required "parameters" [] (Json.Decoder.list Json.Decoder.string))
      (.cons (.withDefault "filters" [] (Json.Decoder.list Filter.decoder) [])
      (.cons (.withDefault "granularity" [] (Json.Decoder.optional Json.Decoder.string) none)
      (.cons (.withDefault "groupBy" [] Config.namesDecoder [])
      (.cons (.withDefault "limit" [] (Json.Decoder.optional Json.Decoder.uint32) none)
      (.cons (.withDefault "page" [] (Json.Decoder.optional Json.Decoder.uint32) none)
      .nil))))))))
    fun (id, parameters, filters, granularity, groupBy, limit, page, ()) =>
      .ok ⟨id, parameters, filters, granularity, groupBy, limit, page⟩

/-- The unit of time of a request: the hour when it asks for it, else the day. -/
def timeUnit (r : BatchRequest) : TimeUnit :=
  if r.granularity = some "hourly" ∨ r.granularity = some "hour" then .hour else .day

/-- The row limit that a request names; zero counts as none. -/
def wantedLimit (r : BatchRequest) : Option UInt32 :=
  r.limit.filter (0 < ·)

/-- The page that a request asks for, counted from one; zero counts as none. -/
def pageNumber (r : BatchRequest) : UInt32 :=
  (r.page.filter (0 < ·)).getD 1

/-- Whether the number of parameters is in bounds. -/
def hasShape (r : BatchRequest) : Bool :=
  1 ≤ r.parameters.length && r.parameters.length ≤ Limits.maxBatchParameters

/-- The error of a request with no parameters or too many. -/
def shapeError : Error :=
  .invalidRequest "parameters: Validation error: length"

end BatchRequest

/-- A free query with its website and range. -/
structure CustomRequest where
  query : Config
  websiteId : Option String
  startDate : String
  endDate : String
  timezone : Option String
  limit : Option UInt32

namespace CustomRequest

/-- Free queries in JSON. -/
def decoder : Json.Decoder CustomRequest :=
  Json.Decoder.refine
    (Json.Decoder.record "CustomQueryRequest"
      (.cons (.required "query" [] Config.decoder)
      (.cons (.withDefault "websiteId" ["website_id"]
        (Json.Decoder.optional Json.Decoder.string) none)
      (.cons (.required "startDate" ["start_date"] Json.Decoder.string)
      (.cons (.required "endDate" ["end_date"] Json.Decoder.string)
      (.cons (.withDefault "timezone" [] (Json.Decoder.optional Json.Decoder.string) none)
      (.cons (.withDefault "limit" [] (Json.Decoder.optional Json.Decoder.uint32) none)
      .nil)))))))
    fun (query, websiteId, startDate, endDate, timezone, limit, ()) =>
      .ok ⟨query, websiteId, startDate, endDate, timezone, limit⟩

/-- The row limit that a free query names; zero counts as none. -/
def wantedLimit (r : CustomRequest) : Option UInt32 :=
  r.limit.filter (0 < ·)

/-- The scope of a free query; its own website counts more than the fallback. -/
def scope (r : CustomRequest) (fallbackWebsiteId : Option String) : Except Error Scope :=
  match Tenant.unlessBlank (r.websiteId <|> fallbackWebsiteId) with
  | none => .error Tenant.websiteRequired
  | some websiteId =>
      match Tenant.resolveTimezone r.timezone with
      | .error e => .error e
      | .ok timezone =>
          .ok
            { websiteId := websiteId
              startDate := r.startDate
              endDate := r.endDate
              timezone := timezone
              limit := r.wantedLimit.getD Limits.defaultQueryLimit
              offset := 0 }

end CustomRequest

end AnalyticsQuery
