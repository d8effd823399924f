import AnalyticsQuery.Clock
import AnalyticsQuery.Dict
import AnalyticsQuery.Error
import AnalyticsQuery.Monitor.Health

/-!
# A cache of the domains of websites

The directory of websites is asked once for a website and its answer is kept,
also the answer that the website has no domain.  A failure is not kept.  An
answer is fresh for some time; after that it is still given out, but the
directory is asked again for the next time.  Much later it is forgotten.

Questions that come together are answered from what was kept before them: each
website that is missing is asked for once, and after the answers have been
given each stale website is asked for once.  The main statement is `get?_keep`:
an answer that is no failure is kept for its own website and for no other.
-/

namespace AnalyticsQuery
namespace Website

/-- What the directory says about the domain of a website. -/
abbrev Answer := Except Error (Option String)

/-- A way to ask the directory for a website. -/
abbrev Inquiry := String → Answer

/-- The message of an answer that is a failure. -/
def failure? : Answer → Option String
  | .ok _ => none
  | .error e => some e.message

/-- The health of the service after the directory has given answers. -/
def healthAfter (h : Monitor.Health) (answers : List Answer) : Monitor.Health :=
  answers.foldl (fun h a => h.set .websiteDirectory (.ofFailure (failure? a))) h

/-- A kept answer. -/
structure CachedDomain where
  domain : Option String
  fetched : Moment
deriving DecidableEq

/-- How long kept answers are fresh, and how long they are stale after that. -/
structure Lifetime where
  fresh : Seconds
  stale : Seconds

/-- Answers are fresh for five minutes and stale for another one. -/
def Lifetime.standard : Lifetime := ⟨300, 60⟩

/-- The kept answers. -/
structure DomainCache where
  lifetime : Lifetime
  entries : Dict CachedDomain

namespace DomainCache

/-- Nothing has been asked yet. -/
def start (lifetime : Lifetime) : DomainCache :=
  ⟨lifetime, .empty⟩

/-- The kept answer for a website, unless it has been forgotten. -/
def entry? (c : DomainCache) (now : Moment) (id : String) : Option CachedDomain :=
  (c.entries.get? id).filter fun e =>
    decide (e.fetched.until now < c.lifetime.fresh + c.lifetime.stale)

/-- Whether the kept answer for a website is stale. -/
def isStale (c : DomainCache) (now : Moment) (id : String) : Bool :=
  match c.entry? now id with
  | none => false
  | some e => decide (c.lifetime.fresh ≤ e.fetched.until now)

/-- The websites without a kept answer, each once. -/
def missing (c : DomainCache) (now : Moment) (ids : List String) : List String :=
  (ids.filter fun id => (c.entry? now id).isNone).eraseDups

/-- The websites with a stale answer, each once. -/
def stale (c : DomainCache) (now : Moment) (ids : List String) : List String :=
  (ids.filter fun id => c.isStale now id).eraseDups

/-- Keep an answer, unless it is a failure. -/
def keep (now : Moment) (c : DomainCache) (id : String) : Answer → DomainCache
  | .ok domain => { c with entries := c.entries.insert id ⟨domain, now⟩ }
  | .error _ => c

/-- Ask for websites and keep the answers. -/
def fetch (c : DomainCache) (ask : Inquiry) (now : Moment) (ids : List String) : DomainCache :=
  ids.foldl (fun c id => keep now c id (ask id)) c

end DomainCache

/-- The outcome of questions that came together. -/
structure Lookup where
  domains : List (Option String)
  /-- What the directory said, in order. -/
  answers : List Answer
  cache : DomainCache

/-- The domain that a single question was about. -/
def Lookup.domain (l : Lookup) : Option String :=
  l.domains.head?.join

namespace DomainCache

/-- Answer questions that come together. -/
def lookupAll (c : DomainCache) (ask : Inquiry) (now : Moment) (ids : List String) : Lookup :=
  let missing := c.missing now ids
  let stale := c.stale now ids
  let filled := c.fetch ask now missing
  { domains := ids.map fun id => (filled.entry? now id).bind CachedDomain.domain
    answers := (missing ++ stale).map ask
    cache := filled.fetch ask now stale }

/-- Answer a single question. -/
def lookup (c : DomainCache) (ask : Inquiry) (now : Moment) (id : String) : Lookup :=
  c.lookupAll ask now [id]

theorem get?_keep (c : DomainCache) (now : Moment) (id k : String) (a : Answer) :
    (keep now c id a).entries.get? k =
      match a with
      | .ok domain => if id = k then some ⟨domain, now⟩ else c.entries.get? k
      | .error _ => c.entries.get? k := by
  cases a with
  | ok domain => simp [keep]
  | error e => rfl

theorem lifetime_keep (c : DomainCache) (now : Moment) (id : String) (a : Answer) :
    (keep now c id a).lifetime = c.lifetime := by
  cases a <;> rfl

end DomainCache
end Website
end AnalyticsQuery
