import AnalyticsQuery.Json.Decode

/-!
# Settings of the store

The store is reached under a URL.  Names without a database belong to the
default one, a user is optional, and a query that takes too long is given up.
-/

namespace AnalyticsQuery
namespace Store

/-- How the store is reached. -/
structure Settings where
  url : String
  database : String
  username : Option String
  password : Option String
  timeoutSecs : UInt64
deriving DecidableEq, Repr

namespace Settings

/-- The database of settings that name none. -/
def defaultDatabase : String := "analytics"

/-- The seconds after which a query is given up when the settings do not say. -/
def defaultTimeoutSecs : UInt64 := 30

/-- The settings of a store on the same machine. -/
def standard : Settings where
  url := "http://localhost:8123"
  database := defaultDatabase
  username := none
  password := none
  timeoutSecs := defaultTimeoutSecs

/-- Settings in JSON. -/
def decoder : Json.Decoder Settings :=
  Json.Decoder.refine
    (Json.Decoder.record "ClickHouseConfig"
      (.cons (.required "url" [] Json.Decoder.string)
      (.cons (.withDefault "database" [] Json.Decoder.string defaultDatabase)
      (.cons (.optionalKey "username" Json.Decoder.string)
      (.cons (.optionalKey "password" Json.Decoder.string)
      (.cons (.withDefault "timeout_secs" [] Json.Decoder.uint64 defaultTimeoutSecs)
      .nil))))))
    fun (url, database, username, password, timeoutSecs, ()) =>
      .ok ⟨url, database, username, password, timeoutSecs⟩

/-- Settings as a JSON value. -/
def json (s : Settings) : Json :=
  .ofDict (Dict.ofList
    [ ("url", .str s.url), ("database", .str s.database), ("username", .ofOption s.username),
      ("password", .ofOption s.password), ("timeout_secs", .ofUInt64 s.timeoutSecs) ])

end Settings
end Store
end AnalyticsQuery
