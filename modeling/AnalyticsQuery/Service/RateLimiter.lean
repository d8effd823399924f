import AnalyticsQuery.Clock
import AnalyticsQuery.Json.Decode

/-!
# Rate limits

Each caller has a bucket of tokens.  A request takes one token out, and the
bucket fills up at a steady rate until it holds as many as it can.  A caller
whose bucket holds less than one token is rejected and told after how many
whole seconds, and at least one, a token will be there.

Tokens are counted in exact fractions.  The main statements are
`tokens_refill_le`, no bucket holds more than it can, and `get?_check`, a
request changes the bucket of its caller alone.
-/

namespace AnalyticsQuery
namespace Service

/-- How fast buckets fill up, and how many tokens they can hold. -/
structure RateLimit where
  /-- Tokens in a second. -/
  rate : UInt32
  burst : UInt32
deriving DecidableEq, Repr

namespace RateLimit

/-- The limit of a service that sets none. -/
def standard : RateLimit := ⟨50, 200⟩

/-- Limits in JSON. -/
def decoder : Json.Decoder RateLimit :=
  Json.Decoder.refine
    (Json.Decoder.record "RateLimitConfig"
      (.cons (.required "rate" [] Json.Decoder.uint32)
      (.cons (.required "burst" [] Json.Decoder.uint32)
      .nil)))
    fun (rate, burst, ()) => .ok ⟨rate, burst⟩

/-- A limit as a JSON value. -/
def json (l : RateLimit) : Json :=
  .ofDict (Dict.ofList [("rate", .ofUInt32 l.rate), ("burst", .ofUInt32 l.burst)])

/-- The tokens that flow into a bucket in some time. -/
def inflow (l : RateLimit) (time : Seconds) : Rat :=
  time * l.rate.toNat

/-- The tokens of a full bucket. -/
def capacity (l : RateLimit) : Rat :=
  l.burst.toNat

/-- The whole seconds, at least one, after which a bucket holds one token. -/
def wait (l : RateLimit) (tokens : Rat) : Nat :=
  if l.rate = 0 then 1 else max 1 ((1 - tokens) / l.rate.toNat).ceil.toNat

theorem one_le_wait (l : RateLimit) (tokens : Rat) : 1 ≤ l.wait tokens := by
  simp only [wait]
  split
  · exact Nat.le_refl 1
  · exact Nat.le_max_left 1 _

end RateLimit

/-- The answer to a caller who asks for a token. -/
inductive Verdict
  | allowed
  | rejected (retryAfter : Nat)
deriving DecidableEq, Repr

/-- The tokens of a caller, as counted at some time. -/
structure TokenBucket where
  tokens : Rat
  updated : Moment
deriving DecidableEq, Repr

namespace TokenBucket

/-- A full bucket. -/
def full (limit : RateLimit) (now : Moment) : TokenBucket :=
  ⟨limit.capacity, now⟩

/-- A bucket with the tokens that have flowed into it. -/
def refill (limit : RateLimit) (now : Moment) (b : TokenBucket) : TokenBucket :=
  let tokens := b.tokens + limit.inflow (b.updated.until now)
  ⟨if tokens ≤ limit.capacity then tokens else limit.capacity, now⟩

/-- Take a token out of a bucket, if it holds one. -/
def acquire (limit : RateLimit) (now : Moment) (b : TokenBucket) : Verdict × TokenBucket :=
  let b := b.refill limit now
  if 1 ≤ b.tokens then (.allowed, { b with tokens := b.tokens - 1 })
  else (.rejected (limit.wait b.tokens), b)

theorem tokens_refill_le (limit : RateLimit) (now : Moment) (b : TokenBucket) :
    (b.refill limit now).tokens ≤ limit.capacity := by
  simp only [refill]
  split
  · assumption
  · exact Rat.le_refl

end TokenBucket

/-- The buckets of all callers. -/
structure RateLimiter where
  limit : RateLimit
  buckets : Dict TokenBucket

namespace RateLimiter

/-- No caller has come yet. -/
def start (limit : RateLimit) : RateLimiter :=
  ⟨limit, .empty⟩

/-- The bucket of a caller; that of a new one is full. -/
def bucket (r : RateLimiter) (now : Moment) (key : String) : TokenBucket :=
  (r.buckets.get? key).getD (.full r.limit now)

/-- Ask for a token from the bucket of a caller. -/
def check (r : RateLimiter) (now : Moment) (key : String) : Verdict × RateLimiter :=
  let (verdict, b) := (r.bucket now key).acquire r.limit now
  (verdict, { r with buckets := r.buckets.insert key b })

theorem get?_check (r : RateLimiter) (now : Moment) (key k : String) :
    (r.check now key).2.buckets.get? k =
      if key = k then some ((r.bucket now key).acquire r.limit now).2 else r.buckets.get? k := by
  simp only [check]
  exact Dict.get?_insert _ _ _ _

/-- Forget the callers who have not asked for some time. -/
def cleanup (r : RateLimiter) (now : Moment) (maxAge : Seconds) : RateLimiter :=
  { r with buckets := r.buckets.filter fun _ b => decide (b.updated.until now < maxAge) }

/-- The number of callers who have a bucket. -/
def size (r : RateLimiter) : Nat :=
  r.buckets.size

end RateLimiter
end Service
end AnalyticsQuery
