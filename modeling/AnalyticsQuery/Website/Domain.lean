import AnalyticsQuery.Text.Blank
import AnalyticsQuery.Url.Basic

/-!
# The domain of a website

The domain of a website may be stored as a bare name or as the address of a
page.  It is reduced to the host, in small letters and without a leading
`www.`.
-/

namespace AnalyticsQuery
namespace Website

/-- The prefix of a host that is left out. -/
def commonPrefix : List Char := ['w', 'w', 'w', '.']

/-- A host without the common prefix. -/
def withoutCommonPrefix (host : List Char) : List Char :=
  if commonPrefix.isPrefixOf host then host.drop commonPrefix.length else host

/-- A stored domain as a URL; a bare name gets a scheme. -/
def asUrl (cs : List Char) : List Char :=
  if Text.occurs [':', '/', '/'] cs then cs else "https://".toList ++ cs

/-- The bare host of a stored domain. -/
def bareHost? (raw : String) : Option String :=
  let cs := Text.stripWhere Text.isBlankChar raw.toList
  if cs.isEmpty then none
  else
    match Url.parse (String.ofList (asUrl cs)) with
    | .error _ => none
    | .ok url =>
        url.hostChars?.map fun host =>
          String.ofList ((withoutCommonPrefix host).map Char.toLower)

end Website
end AnalyticsQuery
