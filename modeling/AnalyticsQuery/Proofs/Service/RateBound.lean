import AnalyticsQuery.Proofs.Dict
import AnalyticsQuery.Service.RateLimiter

/-!
# What a rate limiter lets through

A caller takes a token out with each check that is let through, and no more
tokens flow in than time allows.  So in any window of time a caller gets through
as often as a full bucket and the inflow of that time pay for, whatever the other
callers do.

Buckets that have been idle for long are dropped, and the next check of the
caller starts with a full one.  No caller gains by it as long as the idle time
would have filled the bucket anyway.  Under that condition a limiter answers a
caller as one bucket would that is never dropped and that nobody else draws from.

* `paid_acquire`: what one check does to the tokens of a bucket.
* `admitted_since_le`, `admitted_within_le`: what a bucket lets through up to a
  time and in a window, each by induction on the checks.
* `isSound_step`, `isSound_after`: the tokens of all buckets, the step and the run.
* `matches_check_self`, `matches_check_other`, `matches_cleanup`: the bucket of a
  caller stands for one of its own, whichever event comes next.
* `replies_eq`: the replies of a limiter are those of a bucket.
* `replies_within_limit`: the bounds on a run.
-/

namespace AnalyticsQuery

/-! ## Lengths of time and what flows in -/

theorem Moment.until_of_le {start now : Moment} (h : start ≤ now) : start.until now = now - start :=
  if_pos h

theorem Moment.until_nonneg (start now : Moment) : 0 ≤ start.until now := by
  unfold Moment.until
  split <;> grind

theorem Moment.until_le_until {start start' : Moment} (h : start ≤ start') (now : Moment) :
    start'.until now ≤ start.until now := by
  unfold Moment.until
  split <;> split <;> grind

theorem Moment.until_mono (start : Moment) {now now' : Moment} (h : now ≤ now') :
    start.until now ≤ start.until now' := by
  unfold Moment.until
  split <;> split <;> grind

theorem Moment.until_self (now : Moment) : now.until now = 0 := by
  unfold Moment.until
  split <;> grind

theorem Moment.until_add {start middle stop : Moment} (h : start ≤ middle) (h' : middle ≤ stop) :
    start.until middle + middle.until stop = start.until stop := by
  rw [until_of_le h, until_of_le h', until_of_le (Rat.le_trans h h')]
  grind

namespace Service

namespace RateLimit

theorem capacity_nonneg (limit : RateLimit) : 0 ≤ limit.capacity :=
  Rat.natCast_nonneg

theorem inflow_eq (limit : RateLimit) (time : Seconds) :
    limit.inflow time = limit.rate.toNat * time :=
  Rat.mul_comm _ _

theorem inflow_add (limit : RateLimit) (time time' : Seconds) :
    limit.inflow (time + time') = limit.inflow time + limit.inflow time' :=
  Rat.add_mul _ _ _

theorem inflow_mono (limit : RateLimit) {time time' : Seconds} (h : time ≤ time') :
    limit.inflow time ≤ limit.inflow time' :=
  Rat.mul_le_mul_of_nonneg_right h Rat.natCast_nonneg

theorem inflow_nonneg (limit : RateLimit) {time : Seconds} (h : 0 ≤ time) :
    0 ≤ limit.inflow time :=
  Rat.mul_nonneg h Rat.natCast_nonneg

theorem inflow_of_rate_eq_zero (limit : RateLimit) (h : limit.rate = 0) (time : Seconds) :
    limit.inflow time = 0 := by
  simp [inflow, h]

end RateLimit

/-- The tokens that a check costs. -/
def Verdict.cost : Verdict → Nat
  | .allowed => 1
  | .rejected _ => 0

/-- The reply to a check, with its time. -/
structure Reply where
  now : Moment
  verdict : Verdict
deriving DecidableEq, Repr

/-- How many of some replies let a caller through from one time to another, both included. -/
def admitted (first last : Moment) (replies : List Reply) : Nat :=
  replies.countP fun a => decide (a.verdict = .allowed ∧ first ≤ a.now ∧ a.now ≤ last)

theorem admitted_cons_of_within
    {first last : Moment} {a : Reply} {rest : List Reply} (h : first ≤ a.now ∧ a.now ≤ last) :
    admitted first last (a :: rest) = a.verdict.cost + admitted first last rest := by
  obtain ⟨now, verdict⟩ := a
  cases verdict with
  | allowed => simp [admitted, h, Verdict.cost, Nat.add_comm]
  | rejected retryAfter => simp [admitted, Verdict.cost]

theorem admitted_cons_of_before
    {first last : Moment} {a : Reply} {rest : List Reply} (h : a.now < first) :
    admitted first last (a :: rest) = admitted first last rest := by
  have hfirst : ¬ first ≤ a.now := Rat.not_le.mpr h
  simp [admitted, hfirst]

theorem admitted_of_after
    {first last : Moment} {replies : List Reply} (h : ∀ a ∈ replies, last < a.now) :
    admitted first last replies = 0 := by
  apply List.countP_eq_zero.mpr
  intro a ha
  have hlast : ¬ a.now ≤ last := Rat.not_le.mpr (h a ha)
  simp [hlast]

namespace TokenBucket

variable {limit : RateLimit} {b : TokenBucket} {now : Moment}

/-- The tokens of a bucket are between none and as many as it can hold. -/
def IsSound (limit : RateLimit) (b : TokenBucket) : Prop :=
  0 ≤ b.tokens ∧ b.tokens ≤ limit.capacity

/-! ## One check -/

theorem isSound_full (limit : RateLimit) (now : Moment) : (full limit now).IsSound limit :=
  ⟨limit.capacity_nonneg, Rat.le_refl⟩

theorem isSound_refill (h : b.IsSound limit) : (b.refill limit now).IsSound limit := by
  refine ⟨?_, tokens_refill_le limit now b⟩
  have hinflow := limit.inflow_nonneg (Moment.until_nonneg b.updated now)
  have htokens := h.1
  simp only [refill]
  split
  · grind
  · exact limit.capacity_nonneg

theorem tokens_refill_le_inflow (limit : RateLimit) (now : Moment) (b : TokenBucket) :
    (b.refill limit now).tokens ≤ b.tokens + limit.inflow (b.updated.until now) := by
  simp only [refill]
  split
  · exact Rat.le_refl
  · grind

/-- A bucket that has been idle for long enough is full again. -/
theorem refill_of_capacity_le (h : limit.capacity ≤ b.tokens + limit.inflow (b.updated.until now)) :
    b.refill limit now = full limit now := by
  simp only [refill, full]
  split
  · congr 1
    grind
  · rfl

theorem refill_full (limit : RateLimit) (start now : Moment) :
    (full limit start).refill limit now = full limit now := by
  apply refill_of_capacity_le
  have hinflow := limit.inflow_nonneg (Moment.until_nonneg start now)
  simp only [full]
  grind

theorem updated_refill (limit : RateLimit) (now : Moment) (b : TokenBucket) :
    (b.refill limit now).updated = now :=
  rfl

theorem refill_refill (limit : RateLimit) (now : Moment) (b : TokenBucket) :
    (b.refill limit now).refill limit now = b.refill limit now := by
  have hle := tokens_refill_le limit now b
  have hidle : limit.inflow ((b.refill limit now).updated.until now) = 0 := by
    simp [updated_refill, Moment.until_self, RateLimit.inflow]
  rw [refill, hidle, Rat.add_zero, if_pos hle]
  rfl

/-- A check sees of a bucket what is in it once the tokens have flowed in. -/
theorem acquire_congr {b' : TokenBucket} (h : b.refill limit now = b'.refill limit now) :
    b.acquire limit now = b'.acquire limit now := by
  unfold acquire
  rw [h]

/-- A check that is let through takes a token out, and another one takes none; none is taken from a
bucket that holds less than one. -/
theorem paid_acquire (limit : RateLimit) (now : Moment) (b : TokenBucket) :
    (b.acquire limit now).2.tokens + (b.acquire limit now).1.cost = (b.refill limit now).tokens ∧
      (b.acquire limit now).2.updated = now ∧
      ((b.acquire limit now).1 = .allowed ↔ 1 ≤ (b.refill limit now).tokens) := by
  simp only [acquire]
  split
  · rename_i htokens
    refine ⟨?_, rfl, ?_⟩
    · simp only [Verdict.cost]
      grind
    · simpa using htokens
  · rename_i htokens
    refine ⟨?_, rfl, ?_⟩
    · simp only [Verdict.cost]
      grind
    · simpa using htokens

theorem isSound_acquire (h : b.IsSound limit) : (b.acquire limit now).2.IsSound limit := by
  obtain ⟨hnonneg, hle⟩ : (b.refill limit now).IsSound limit := isSound_refill h
  obtain ⟨hpaid, -, hallowed⟩ := paid_acquire limit now b
  cases hverdict : (b.acquire limit now).1 with
  | allowed =>
      have hone := hallowed.mp hverdict
      simp only [hverdict, Verdict.cost] at hpaid
      constructor <;> grind
  | rejected retryAfter =>
      simp only [hverdict, Verdict.cost] at hpaid
      constructor <;> grind

/-! ## A bucket of one caller -/

/-- The replies to checks at some times, one after another. -/
def replies (limit : RateLimit) (b : TokenBucket) : List Moment → List Reply
  | [] => []
  | now :: rest =>
      ⟨now, (b.acquire limit now).1⟩ :: (b.acquire limit now).2.replies limit rest

theorem map_now_replies (limit : RateLimit) (b : TokenBucket) (times : List Moment) :
    (b.replies limit times).map Reply.now = times := by
  induction times generalizing b with
  | nil => rfl
  | cons now rest ih => simp [replies, ih]

theorem replies_refill (limit : RateLimit) (now : Moment) (b : TokenBucket) (rest : List Moment) :
    (b.refill limit now).replies limit (now :: rest) = b.replies limit (now :: rest) := by
  rw [replies, replies, acquire_congr (refill_refill limit now b)]

theorem now_mem_of_mem_replies
    {times : List Moment} {a : Reply} (h : a ∈ b.replies limit times) :
    a.now ∈ times := by
  rw [← map_now_replies limit b times]
  exact List.mem_map_of_mem h

/-- Up to some time, a bucket lets through what its tokens and the inflow pay for. -/
theorem admitted_since_le
    (htokens : b.IsSound limit) {first : Moment} (last : Moment) {times : List Moment}
    (hordered : times.Pairwise (· ≤ ·)) (hafter : ∀ t ∈ times, b.updated ≤ t ∧ first ≤ t) :
    (admitted first last (b.replies limit times) : Rat) ≤
      b.tokens + limit.inflow (b.updated.until last) := by
  induction times generalizing b with
  | nil =>
      have hinflow := limit.inflow_nonneg (Moment.until_nonneg b.updated last)
      exact Rat.add_nonneg htokens.1 hinflow
  | cons now rest ih =>
      obtain ⟨hnow, hrest⟩ := List.pairwise_cons.mp hordered
      obtain ⟨hupdated, hfirst⟩ := hafter now List.mem_cons_self
      rcases Decidable.em (now ≤ last) with hlast | hlast
      · obtain ⟨hpaid, hmoment, -⟩ := paid_acquire limit now b
        have hlater :
            (admitted first last ((b.acquire limit now).2.replies limit rest) : Rat) ≤
              (b.acquire limit now).2.tokens + limit.inflow (now.until last) := by
          have hafter' : ∀ t ∈ rest, (b.acquire limit now).2.updated ≤ t ∧ first ≤ t := by
            intro t ht
            rw [hmoment]
            exact ⟨hnow t ht, (hafter t (List.mem_cons_of_mem _ ht)).2⟩
          have hnext := ih (isSound_acquire htokens) hrest hafter'
          rwa [hmoment] at hnext
        have hrefill := tokens_refill_le_inflow limit now b
        have hsplit :
            limit.inflow (b.updated.until now) + limit.inflow (now.until last) =
              limit.inflow (b.updated.until last) := by
          rw [← limit.inflow_add, Moment.until_add hupdated hlast]
        rw [replies, admitted_cons_of_within ⟨hfirst, hlast⟩, Rat.natCast_add]
        grind
      · have hnone : admitted first last (b.replies limit (now :: rest)) = 0 := by
          apply admitted_of_after
          intro a ha
          rcases List.mem_cons.mp (now_mem_of_mem_replies ha) with heq | hmem
          · rw [heq]
            exact Rat.not_le.mp hlast
          · exact Std.lt_of_lt_of_le (Rat.not_le.mp hlast) (hnow a.now hmem)
        have hinflow := limit.inflow_nonneg (Moment.until_nonneg b.updated last)
        rw [hnone]
        exact Rat.add_nonneg htokens.1 hinflow

/-- In a window of time, a bucket lets through what a full one and the inflow pay for. -/
theorem admitted_within_le
    (htokens : b.IsSound limit) (first last : Moment) {times : List Moment}
    (hordered : times.Pairwise (· ≤ ·)) :
    (admitted first last (b.replies limit times) : Rat) ≤
      limit.capacity + limit.inflow (first.until last) := by
  induction times generalizing b with
  | nil =>
      have hinflow := limit.inflow_nonneg (Moment.until_nonneg first last)
      exact Rat.add_nonneg limit.capacity_nonneg hinflow
  | cons now rest ih =>
      obtain ⟨hnow, hrest⟩ := List.pairwise_cons.mp hordered
      rcases Decidable.em (now < first) with hbefore | hbefore
      · rw [replies, admitted_cons_of_before hbefore]
        exact ih (isSound_acquire htokens) hrest
      · -- The first check in the window finds no more than a full bucket, whatever came before.
        have hfirst : first ≤ now := Rat.not_lt.mp hbefore
        have hafter : ∀ t ∈ now :: rest, (b.refill limit now).updated ≤ t ∧ first ≤ t := by
          intro t ht
          rcases List.mem_cons.mp ht with rfl | hmem
          · exact ⟨Rat.le_refl, hfirst⟩
          · exact ⟨hnow t hmem, Rat.le_trans hfirst (hnow t hmem)⟩
        have hfrom := admitted_since_le (isSound_refill htokens) last hordered hafter
        rw [replies_refill] at hfrom
        have htop := tokens_refill_le limit now b
        have hinflow := limit.inflow_mono (Moment.until_le_until hfirst last)
        simp only [updated_refill] at hfrom
        grind

theorem refill_of_rate_eq_zero (hrate : limit.rate = 0) (htokens : b.IsSound limit) :
    (b.refill limit now).tokens = b.tokens := by
  rw [refill, limit.inflow_of_rate_eq_zero hrate, Rat.add_zero, if_pos htokens.2]

/-- A bucket that nothing flows into lets through as many checks as it holds tokens, and those are
the first ones. -/
theorem allowed_iff_of_rate_eq_zero
    (hrate : limit.rate = 0) (htokens : b.IsSound limit) {n : Nat} (hn : b.tokens = n)
    {times : List Moment} {i : Nat} {a : Reply} (ha : (b.replies limit times)[i]? = some a) :
    a.verdict = .allowed ↔ i + 1 ≤ n := by
  induction times generalizing b n i with
  | nil => cases ha
  | cons now rest ih =>
      obtain ⟨hpaid, -, hallowed⟩ := paid_acquire limit now b
      rw [refill_of_rate_eq_zero hrate htokens, hn] at hpaid hallowed
      have hone : (b.acquire limit now).1 = .allowed ↔ 1 ≤ n := by
        rw [hallowed]
        norm_cast
      cases i with
      | zero =>
          simp only [replies, List.getElem?_cons_zero, Option.some.injEq] at ha
          rw [← ha, hone, Nat.zero_add]
      | succ i =>
          simp only [replies, List.getElem?_cons_succ] at ha
          have hnext : (b.acquire limit now).2.tokens = ((n - 1 : Nat) : Rat) := by
            cases hverdict : (b.acquire limit now).1 with
            | allowed =>
                obtain ⟨m, rfl⟩ := Nat.exists_eq_add_of_le' (hone.mp hverdict)
                simp only [hverdict, Verdict.cost, Rat.natCast_add, Nat.add_sub_cancel] at hpaid ⊢
                grind
            | rejected retryAfter =>
                have hzero : n = 0 := by
                  rw [hverdict] at hone
                  simpa using hone
                simp only [hverdict, Verdict.cost, hzero] at hpaid ⊢
                grind
          rw [ih (isSound_acquire htokens) hnext ha]
          omega

end TokenBucket

/-! ## Events -/

/-- What can happen to a rate limiter. -/
inductive Event
  | check (now : Moment) (key : String)
  | cleanup (now : Moment) (maxAge : Seconds)
deriving DecidableEq, Repr

namespace Event

/-- The time of an event. -/
def now : Event → Moment
  | check now _ => now
  | cleanup now _ => now

/-- Whether a bucket that an event drops would have been full at that time. -/
def IsPatient (limit : RateLimit) : Event → Prop
  | check _ _ => True
  | cleanup _ maxAge => limit.burst.toNat ≤ limit.rate.toNat * maxAge

instance (limit : RateLimit) : DecidablePred (IsPatient limit)
  | check _ _ => isTrue trivial
  | cleanup _ maxAge =>
      inferInstanceAs (Decidable ((limit.burst.toNat : Rat) ≤ limit.rate.toNat * maxAge))

/-- The time of a check of a caller. -/
def checkTime? (key : String) : Event → Option Moment
  | check now k => if k = key then some now else none
  | cleanup _ _ => none

theorem checkTime?_check_self (key : String) (now : Moment) :
    (check now key).checkTime? key = some now :=
  if_pos rfl

theorem checkTime?_check_other {k key : String} (hk : k ≠ key) (now : Moment) :
    (check now k).checkTime? key = none :=
  if_neg hk

theorem now_of_checkTime? {key : String} {e : Event} {time : Moment}
    (h : e.checkTime? key = some time) : e.now = time := by
  cases e with
  | check now k =>
      simp only [checkTime?, Option.ite_none_right_eq_some, Option.some.injEq] at h
      exact h.2
  | cleanup now maxAge => cases h

end Event

/-- The times of the checks of a caller. -/
def checkTimes (key : String) (events : List Event) : List Moment :=
  events.filterMap (Event.checkTime? key)

/-- A run of events: time never goes back, and only buckets that would be full are dropped. -/
structure PatientRun (limit : RateLimit) (events : List Event) : Prop where
  ordered : events.Pairwise fun e e' => e.now ≤ e'.now
  patient : ∀ e ∈ events, e.IsPatient limit

namespace RateLimiter

/-- The limiter after an event. -/
def step (r : RateLimiter) : Event → RateLimiter
  | .check now key => (r.check now key).2
  | .cleanup now maxAge => r.cleanup now maxAge

/-- The limiter after events one after another. -/
def after (r : RateLimiter) (events : List Event) : RateLimiter :=
  events.foldl step r

/-- The reply that a caller gets in an event, if it is a check of that caller. -/
def reply? (r : RateLimiter) (key : String) : Event → Option Reply
  | .check now k => if k = key then some ⟨now, (r.check now k).1⟩ else none
  | .cleanup _ _ => none

/-- The replies that a caller gets in events one after another. -/
def replies (r : RateLimiter) (key : String) : List Event → List Reply
  | [] => []
  | e :: rest => (r.reply? key e).toList ++ (r.step e).replies key rest

variable {r : RateLimiter} {key : String} {b : TokenBucket} {time : Moment}

theorem limit_check (r : RateLimiter) (now : Moment) (key : String) :
    (r.check now key).2.limit = r.limit :=
  rfl

theorem limit_step (r : RateLimiter) (e : Event) : (r.step e).limit = r.limit := by
  cases e with
  | check now key => exact limit_check r now key
  | cleanup now maxAge => rfl

theorem limit_after (r : RateLimiter) (events : List Event) : (r.after events).limit = r.limit := by
  induction events generalizing r with
  | nil => rfl
  | cons e rest ih => exact (ih (r.step e)).trans (limit_step r e)

theorem get?_cleanup (r : RateLimiter) (now : Moment) (maxAge : Seconds) (key : String) :
    (r.cleanup now maxAge).buckets.get? key =
      (r.buckets.get? key).filter fun b => decide (b.updated.until now < maxAge) :=
  Dict.get?_filter _ r.buckets key

/-! ## The tokens of all buckets -/

/-- All buckets hold between none and as many tokens as they can. -/
def IsSound (r : RateLimiter) : Prop :=
  ∀ key b, r.buckets.get? key = some b → b.IsSound r.limit

theorem isSound_start (limit : RateLimit) : (start limit).IsSound := by
  intro key b h
  cases h

theorem isSound_bucket (h : r.IsSound) (now : Moment) (key : String) :
    (r.bucket now key).IsSound r.limit := by
  unfold bucket
  cases hb : r.buckets.get? key with
  | none => exact TokenBucket.isSound_full r.limit now
  | some b => exact h key b hb

/-- The step: an event keeps the tokens of all buckets within their bounds. -/
theorem isSound_step (h : r.IsSound) (e : Event) : (r.step e).IsSound := by
  intro k b hb
  rw [limit_step]
  cases e with
  | check now key =>
      rw [step, get?_check] at hb
      split at hb
      · cases hb
        exact TokenBucket.isSound_acquire (isSound_bucket h now key)
      · exact h k b hb
  | cleanup now maxAge =>
      rw [step, get?_cleanup] at hb
      exact h k b (Option.eq_some_of_filter_eq_some hb)

/-- The run: so do events one after another. -/
theorem isSound_after (h : r.IsSound) (events : List Event) : (r.after events).IsSound := by
  induction events generalizing r with
  | nil => exact h
  | cons e rest ih => exact ih (isSound_step h e)

/-! ## The bucket of one caller -/

/-- From some time on, the checks of a caller find the tokens of a bucket. -/
def Matches (r : RateLimiter) (key : String) (b : TokenBucket) (time : Moment) : Prop :=
  ∀ now, time ≤ now → (r.bucket now key).refill r.limit now = b.refill r.limit now

/-- A caller who has not come yet has a full bucket, and has had it for however long. -/
theorem matches_start (limit : RateLimit) (key : String) (time start' : Moment) :
    (start limit).Matches key (.full limit start') time := by
  intro now _
  calc ((start limit).bucket now key).refill limit now
      _ = TokenBucket.full limit now := TokenBucket.refill_full limit now now
      _ = (TokenBucket.full limit start').refill limit now :=
        (TokenBucket.refill_full limit start' now).symm

theorem acquire_bucket (h : r.Matches key b time) {now : Moment} (htime : time ≤ now) :
    (r.bucket now key).acquire r.limit now = b.acquire r.limit now :=
  TokenBucket.acquire_congr (h now htime)

/-- A check of the caller leaves what the check leaves of the bucket. -/
theorem matches_check_self (h : r.Matches key b time) {now : Moment} (htime : time ≤ now) :
    (r.check now key).2.Matches key (b.acquire r.limit now).2 now := by
  intro now' _
  have hbucket : (r.check now key).2.bucket now' key = (b.acquire r.limit now).2 := by
    rw [bucket, get?_check, if_pos rfl, Option.getD_some, acquire_bucket h htime]
  rw [hbucket, limit_check]

/-- A check of another caller leaves the bucket as it is. -/
theorem matches_check_other (h : r.Matches key b time) {k : String} (hk : k ≠ key) (now : Moment) :
    (r.check now k).2.Matches key b time := by
  intro now' htime
  have hbucket : (r.check now k).2.bucket now' key = r.bucket now' key := by
    rw [bucket, get?_check, if_neg hk, bucket, check]
  rw [hbucket]
  exact h now' htime

/-- A bucket that is dropped would have been full by then, and a new one is. -/
theorem matches_cleanup
    (hsound : r.IsSound) (h : r.Matches key b time) {now : Moment} (htime : time ≤ now)
    {maxAge : Seconds} (hpatient : r.limit.capacity ≤ r.limit.inflow maxAge) :
    (r.cleanup now maxAge).Matches key b now := by
  intro now' hnow
  have hbefore := h now' (Rat.le_trans htime hnow)
  have hcleanup := get?_cleanup r now maxAge key
  cases hkept : r.buckets.get? key with
  | none =>
      rw [hkept, Option.filter_none] at hcleanup
      simp only [bucket, hkept] at hbefore
      simp only [bucket, hcleanup]
      exact hbefore
  | some kept =>
      rw [hkept] at hcleanup
      simp only [bucket, hkept, Option.getD_some] at hbefore
      rcases Decidable.em (kept.updated.until now < maxAge) with hyoung | hidle
      · simp only [Option.filter, hyoung, decide_true, if_true] at hcleanup
        simp only [bucket, hcleanup]
        exact hbefore
      · have hfull : kept.refill r.limit now' = .full r.limit now' := by
          have hlong : maxAge ≤ kept.updated.until now' :=
            Rat.le_trans (Rat.not_lt.mp hidle) (Moment.until_mono kept.updated hnow)
          have hinflow := r.limit.inflow_mono hlong
          have hnonneg := (hsound key kept hkept).1
          apply TokenBucket.refill_of_capacity_le
          grind
        simp only [Option.filter, hidle, decide_false, Bool.false_eq_true, if_false] at hcleanup
        simp only [bucket, hcleanup, Option.getD_none]
        calc (TokenBucket.full r.limit now').refill r.limit now'
            _ = .full r.limit now' := TokenBucket.refill_full r.limit now' now'
            _ = b.refill r.limit now' := hfull.symm.trans hbefore

/-- The run: a caller gets the replies of a bucket that is never dropped and that nobody else draws
from. -/
theorem replies_eq
    (hsound : r.IsSound) (h : r.Matches key b time) {events : List Event}
    (hrun : PatientRun r.limit events) (htime : ∀ e ∈ events, time ≤ e.now) :
    r.replies key events = b.replies r.limit (checkTimes key events) := by
  induction events generalizing r b time with
  | nil => rfl
  | cons e rest ih =>
      obtain ⟨hnow, hordered⟩ := List.pairwise_cons.mp hrun.ordered
      have hrest : PatientRun (r.step e).limit rest := by
        rw [limit_step]
        exact ⟨hordered, fun e he => hrun.patient e (List.mem_cons_of_mem _ he)⟩
      have hsound' := isSound_step hsound e
      have hstart := htime e List.mem_cons_self
      cases e with
      | check now k =>
          by_cases hk : k = key
          · subst hk
            have hlater := ih hsound' (matches_check_self h hstart) hrest hnow
            have hverdict : (r.check now k).1 = (b.acquire r.limit now).1 :=
              congrArg Prod.fst (acquire_bucket h hstart)
            rw [checkTimes, List.filterMap_cons_some (Event.checkTime?_check_self k now)]
            rw [replies, reply?, if_pos rfl, TokenBucket.replies, hlater, hverdict]
            rfl
          · have hlater := ih hsound' (matches_check_other h hk now) hrest
              fun e he => htime e (List.mem_cons_of_mem _ he)
            rw [checkTimes, List.filterMap_cons_none (Event.checkTime?_check_other hk now)]
            rw [replies, reply?, if_neg hk, hlater]
            rfl
      | cleanup now maxAge =>
          have hpatient : r.limit.capacity ≤ r.limit.inflow maxAge := by
            rw [r.limit.inflow_eq]
            exact hrun.patient _ List.mem_cons_self
          have hlater := ih hsound' (matches_cleanup hsound h hstart hpatient) hrest hnow
          rw [replies, hlater]
          rfl

/-! ## Runs of a new limiter -/

theorem ordered_checkTimes {limit : RateLimit} {events : List Event} (h : PatientRun limit events)
    (key : String) : (checkTimes key events).Pairwise (· ≤ ·) := by
  apply h.ordered.filterMap
  intro e e' hle t ht t' ht'
  rwa [← Event.now_of_checkTime? ht, ← Event.now_of_checkTime? ht']

/-- A bucket that nobody else draws from replies like a new limiter. -/
theorem replies_start {limit : RateLimit} {events : List Event} (h : PatientRun limit events)
    (key : String) (time : Moment) :
    (start limit).replies key events =
      (TokenBucket.full limit time).replies limit (checkTimes key events) := by
  cases events with
  | nil => rfl
  | cons e rest =>
      have hfirst : ∀ e' ∈ e :: rest, e.now ≤ e'.now := by
        intro e' he'
        rcases List.mem_cons.mp he' with rfl | hmem
        · exact Rat.le_refl
        · exact List.rel_of_pairwise_cons h.ordered hmem
      exact replies_eq (isSound_start limit) (matches_start limit key e.now time) h hfirst

/-- What a caller can count on, and what a service can, in a run of a new limiter: every check has
a reply; the tokens stay between none and the burst; in any window of time no more checks are let
through than the burst and the inflow; the replies depend on the caller's own checks only; and
without inflow the burst is let through and then nothing. -/
theorem replies_within_limit
    {limit : RateLimit} {events : List Event} (h : PatientRun limit events) (key : String) :
    ((start limit).replies key events).map Reply.now = checkTimes key events ∧
      (∀ b, ((start limit).after events).buckets.get? key = some b →
        0 ≤ b.tokens ∧ b.tokens ≤ limit.burst.toNat) ∧
      (∀ first length, 0 ≤ length →
        (admitted first (first + length) ((start limit).replies key events) : Rat) ≤
          limit.burst.toNat + limit.rate.toNat * length) ∧
      (∀ events', PatientRun limit events' → checkTimes key events' = checkTimes key events →
        (start limit).replies key events' = (start limit).replies key events) ∧
      (limit.rate = 0 → ∀ i a, ((start limit).replies key events)[i]? = some a →
        (a.verdict = .allowed ↔ i + 1 ≤ limit.burst.toNat)) := by
  have hreplies := replies_start h key 0
  have hfull := TokenBucket.isSound_full limit 0
  refine ⟨?_, ?_, ?_, ?_, ?_⟩
  · rw [hreplies]
    exact TokenBucket.map_now_replies limit _ _
  · intro b hb
    have hsound := isSound_after (isSound_start limit) events key b hb
    rw [limit_after] at hsound
    exact hsound
  · intro first length hlength
    have hwindow :=
      TokenBucket.admitted_within_le hfull first (first + length) (ordered_checkTimes h key)
    have huntil : first.until (first + length) = length := by
      rw [Moment.until_of_le]
      · grind
      · grind
    rw [huntil, limit.inflow_eq, ← hreplies] at hwindow
    exact hwindow
  · intro events' h' htimes
    rw [hreplies, replies_start h' key 0, htimes]
  · intro hrate i a ha
    rw [hreplies] at ha
    exact TokenBucket.allowed_iff_of_rate_eq_zero hrate hfull rfl ha

/-- Two callers share a limiter, and both their buckets are dropped after a while. -/
def sharedRun : List Event :=
  [.check 0 "a", .check 0 "b", .check 1 "a", .check 1 "a", .cleanup 5 2, .check 6 "a"]

/-- The checks of one of them. -/
def lonelyRun : List Event :=
  [.check 0 "a", .check 1 "a", .check 1 "a", .check 6 "a"]

/-- Within a second a caller gets through with a burst of two and one more check, and gets the same
replies alone; without inflow the third check and all later ones are rejected. -/
theorem replies_within_limit_sharedRun :
    PatientRun ⟨1, 2⟩ sharedRun ∧ PatientRun ⟨1, 2⟩ lonelyRun ∧
      checkTimes "a" lonelyRun = checkTimes "a" sharedRun ∧
      admitted 0 (0 + 1) ((start ⟨1, 2⟩).replies "a" sharedRun) = 3 ∧
      (admitted 0 (0 + 1) ((start ⟨1, 2⟩).replies "a" sharedRun) : Rat) ≤ 3 ∧
      (start ⟨1, 2⟩).replies "a" lonelyRun = (start ⟨1, 2⟩).replies "a" sharedRun ∧
      PatientRun ⟨0, 2⟩ lonelyRun ∧
      ∃ a, ((start ⟨0, 2⟩).replies "a" lonelyRun)[3]? = some a ∧ a.verdict ≠ .allowed := by
  have hshared : PatientRun ⟨1, 2⟩ sharedRun := ⟨by decide +kernel, by decide +kernel⟩
  have hlonely : PatientRun ⟨1, 2⟩ lonelyRun := ⟨by decide +kernel, by decide +kernel⟩
  have hdry : PatientRun ⟨0, 2⟩ lonelyRun := ⟨by decide +kernel, by decide +kernel⟩
  have htimes : checkTimes "a" lonelyRun = checkTimes "a" sharedRun := by decide +kernel
  obtain ⟨-, -, hwindow, hown, -⟩ := replies_within_limit hshared "a"
  obtain ⟨-, -, -, -, hunfed⟩ := replies_within_limit hdry "a"
  have hbound : ((2 : UInt32).toNat : Rat) + ((1 : UInt32).toNat : Rat) * 1 = 3 := by
    decide +kernel
  have hfourth :
      ((start ⟨0, 2⟩).replies "a" lonelyRun)[3]? = some ⟨6, .rejected 1⟩ := by
    decide +kernel
  refine ⟨hshared, hlonely, htimes, by decide +kernel, ?_, hown lonelyRun hlonely htimes, hdry,
    ⟨6, .rejected 1⟩, hfourth, ?_⟩
  · rw [← hbound]
    exact hwindow 0 1 (by decide +kernel)
  · intro hallowed
    have hfew := (hunfed rfl 3 _ hfourth).mp hallowed
    exact absurd hfew (by decide)

end RateLimiter
end Service
end AnalyticsQuery
