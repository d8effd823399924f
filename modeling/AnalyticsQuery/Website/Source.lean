import AnalyticsQuery.Text.Blank
import AnalyticsQuery.Web.Outbound
import AnalyticsQuery.Website.Cache

/-!
# Sources of domains

The domains of websites are held either in the service itself or by another
service, which is asked under a URL of its own for each website.
-/

namespace AnalyticsQuery
namespace Website

/-- Where the domains of websites are held. -/
inductive Source
  | inProcess (domains : Dict String)
  | remote (base : Url)

/-- The answer of the other service in JSON. -/
def domainDecoder : Json.Decoder (Option String) :=
  Json.Decoder.refine
    (Json.Decoder.record "WebsiteResponse"
      (.cons (.withDefault "domain" [] (Json.Decoder.optional Json.Decoder.string) none) .nil))
    fun (domain, ()) => .ok domain

/-- The segments of the URL of a website after those of the service. -/
def segments (id : String) : List (List Char) :=
  ["internal".toList, "websites".toList, id.toList]

/-- The URL of a website. -/
def urlOf (base : Url) (id : String) : Except Error Url :=
  match base.extendPath? (segments id) with
  | some url => .ok url
  | none => .error (.internal "Website service URL cannot be a base")

/-- What the answer of the other service says; a blank domain is none. -/
def readAnswer (a : Web.OutboundAnswer) : Answer :=
  if a.status = 404 then .ok none
  else if Web.isSuccess a.status then
    match a.decode domainDecoder with
    | .ok domain => .ok (domain.filter fun d => !Text.isBlank d)
    | .error reason => .error (.internal ("Invalid website response: " ++ reason))
  else .error (.internal ("Website service returned " ++ Web.statusText a.status))

/-- Ask the other service for a website. -/
def askRemote (base : Url) (transport : Web.Transport) (id : String) : Answer :=
  match urlOf base id with
  | .error e => .error e
  | .ok url =>
      match transport (.get url) with
      | .ok a => readAnswer a
      | .error reason => .error (.internal ("Website service unavailable: " ++ reason))

namespace Source

/-- Whether a setting asks for domains in the service itself. -/
def isInProcess (setting : String) : Bool :=
  setting.isEmpty || setting == "mock"

/-- The source that a setting names: the URL of another service, or the service itself. -/
def ofSetting (setting : String) : Except Error Source :=
  if isInProcess setting then .ok (.inProcess .empty)
  else
    match Url.parse setting with
    | .ok base => .ok (.remote base)
    | .error e => .error (.internal ("Invalid website service URL: " ++ e.message))

/-- Set the domain of a website that is held in the service itself. -/
def insert (id domain : String) : Source → Source
  | inProcess domains => inProcess (domains.insert id domain)
  | remote base => remote base

/-- Ask for a website. -/
def ask (s : Source) (transport : Web.Transport) : Inquiry := fun id =>
  match s with
  | inProcess domains => .ok (domains.get? id)
  | remote base => askRemote base transport id

end Source
end Website
end AnalyticsQuery
