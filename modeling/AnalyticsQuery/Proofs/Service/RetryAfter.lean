import AnalyticsQuery.Proofs.Service.RateBound

/-!
# How long a rejected caller has to wait

A caller who is rejected is told after how many whole seconds to ask again.
Until then the bucket goes on filling up, whatever happens: a check that is
rejected too takes no token out, other callers have buckets of their own, and a
bucket that is dropped starts full again.  So by that time the bucket holds a
token, unless another check of the caller was let through and took it.

What carries through all these events is a deadline: the tokens that are in the
bucket, and those that flow in until the deadline, make one.

* `wait_le_iff`: the wait is the least number of whole seconds, and at least
  one, in which the missing part of a token flows in.
* `isReadyBy_acquire`, `isReadyBy_step`, `isReadyBy_after`: a deadline is kept by
  a rejected check, by an event, and by events one after another.
* `allowed_of_isReadyBy`: from the deadline on, a check is let through.
* `retryAfter_kept`: so a caller who waits as told is let through.
* `retryAfter_eq_one`: in a limiter that starts with full buckets, no caller has
  to wait for more than a second.
-/

namespace AnalyticsQuery

/-- No way around through a third point in time is shorter, in whichever order the three are. -/
theorem Moment.until_le_add (start middle stop : Moment) :
    start.until stop ≤ start.until middle + middle.until stop := by
  unfold Moment.until
  split <;> split <;> split <;> grind

namespace Service

namespace RateLimit

variable {limit : RateLimit}

theorem one_le_toNat_rate (hrate : 1 ≤ limit.rate) : (1 : Rat) ≤ limit.rate.toNat := by
  have htoNat : 1 ≤ limit.rate.toNat := UInt32.le_iff_toNat_le.mp hrate
  exact_mod_cast htoNat

theorem one_le_capacity (hburst : 1 ≤ limit.burst) : 1 ≤ limit.capacity := by
  have htoNat : 1 ≤ limit.burst.toNat := UInt32.le_iff_toNat_le.mp hburst
  unfold capacity
  exact_mod_cast htoNat

/-- The wait is the least number of whole seconds, at least one, in which the missing part of a
token flows in. -/
theorem wait_le_iff (hrate : 1 ≤ limit.rate) (tokens : Rat) (seconds : Nat) :
    limit.wait tokens ≤ seconds ↔ 1 ≤ seconds ∧ 1 ≤ tokens + limit.inflow seconds := by
  have hpos : (0 : Rat) < limit.rate.toNat := by
    have hone := one_le_toNat_rate hrate
    grind
  have hne : limit.rate ≠ 0 := by
    rintro hzero
    rw [hzero] at hrate
    exact absurd hrate (by decide)
  have hceil :
      ((1 - tokens) / limit.rate.toNat).ceil.toNat ≤ seconds ↔
        (1 - tokens) / limit.rate.toNat ≤ (seconds : Rat) := by
    rw [Int.toNat_le, Rat.ceil_le_iff]
    rfl
  have hinflow :
      (1 - tokens) / limit.rate.toNat ≤ (seconds : Rat) ↔ 1 ≤ tokens + limit.inflow seconds := by
    rw [← Rat.not_lt, Rat.lt_div_iff hpos, Rat.not_lt, inflow]
    grind
  rw [wait, if_neg hne, Nat.max_le, hceil, hinflow]

/-- A bucket that is not overdrawn holds a token after a second, or never will. -/
theorem wait_of_nonneg (limit : RateLimit) {tokens : Rat} (htokens : 0 ≤ tokens) :
    limit.wait tokens = 1 := by
  rcases Decidable.em (limit.rate = 0) with hzero | hne
  · rw [wait, if_pos hzero]
  · have hrate : 1 ≤ limit.rate := by
      rw [UInt32.le_iff_toNat_le]
      exact Nat.pos_of_ne_zero fun h => hne (UInt32.toNat_inj.mp h)
    have hsecond : 1 ≤ tokens + limit.inflow (1 : Nat) := by
      have hone := one_le_toNat_rate hrate
      rw [inflow]
      grind
    have hle : limit.wait tokens ≤ 1 := (wait_le_iff hrate tokens 1).mpr ⟨Nat.le_refl 1, hsecond⟩
    exact Nat.le_antisymm hle (one_le_wait limit tokens)

end RateLimit

namespace TokenBucket

variable {limit : RateLimit} {b : TokenBucket} {now deadline : Moment}

/-! ## The deadline of a bucket -/

/-- The tokens of a bucket, and those that flow in until a deadline, make one. -/
def IsReadyBy (limit : RateLimit) (deadline : Moment) (b : TokenBucket) : Prop :=
  1 ≤ b.tokens + limit.inflow (b.updated.until deadline)

theorem isReadyBy_mono
    {later : Moment} (h : b.IsReadyBy limit deadline) (hlater : deadline ≤ later) :
    b.IsReadyBy limit later := by
  have hinflow := limit.inflow_mono (Moment.until_mono b.updated hlater)
  unfold IsReadyBy at h ⊢
  grind

/-- A bucket that can hold a token lets a check through exactly when it is ready by then. -/
theorem allowed_iff_isReadyBy (hburst : 1 ≤ limit.burst) :
    (b.acquire limit now).1 = .allowed ↔ b.IsReadyBy limit now := by
  obtain ⟨-, -, hallowed⟩ := paid_acquire limit now b
  have hcapacity := RateLimit.one_le_capacity hburst
  rw [hallowed, refill, IsReadyBy]
  grind

/-- A check that is rejected takes nothing out, and what has flowed in by then is counted. -/
theorem acquire_of_not_allowed
    (hburst : 1 ≤ limit.burst) (hrejected : (b.acquire limit now).1 ≠ .allowed) :
    b.acquire limit now =
      (.rejected (limit.wait (b.tokens + limit.inflow (b.updated.until now))),
        ⟨b.tokens + limit.inflow (b.updated.until now), now⟩) := by
  have hcapacity := RateLimit.one_le_capacity hburst
  have hnot : ¬ 1 ≤ b.tokens + limit.inflow (b.updated.until now) :=
    fun h => hrejected ((allowed_iff_isReadyBy hburst).mpr h)
  have hle : b.tokens + limit.inflow (b.updated.until now) ≤ limit.capacity := by
    grind
  simp only [acquire, refill, if_pos hle, if_neg hnot]

/-- The deadline is kept by a check that is rejected. -/
theorem isReadyBy_acquire
    (hburst : 1 ≤ limit.burst) (h : b.IsReadyBy limit deadline)
    (hrejected : (b.acquire limit now).1 ≠ .allowed) :
    (b.acquire limit now).2.IsReadyBy limit deadline := by
  have htime := limit.inflow_mono (Moment.until_le_add b.updated now deadline)
  rw [limit.inflow_add] at htime
  rw [acquire_of_not_allowed hburst hrejected]
  unfold IsReadyBy at h ⊢
  grind

/-- A rejected check tells the first whole second, after at least one, by which the bucket is
ready. -/
theorem retryAfter_le_iff
    (hrate : 1 ≤ limit.rate) (hburst : 1 ≤ limit.burst) {retryAfter : Nat}
    (hrejected : (b.acquire limit now).1 = .rejected retryAfter) (seconds : Nat) :
    retryAfter ≤ seconds ↔
      1 ≤ seconds ∧ (b.acquire limit now).2.IsReadyBy limit (now + seconds) := by
  have hne : (b.acquire limit now).1 ≠ .allowed := by
    rw [hrejected]
    nofun
  have hacquire := acquire_of_not_allowed hburst hne
  have htime : now.until (now + seconds) = (seconds : Rat) := by
    have hnonneg : (0 : Rat) ≤ (seconds : Rat) := Rat.natCast_nonneg
    rw [Moment.until_of_le (by grind)]
    grind
  rw [hacquire] at hrejected
  cases hrejected
  rw [RateLimit.wait_le_iff hrate, hacquire, IsReadyBy, htime]

end TokenBucket

namespace RateLimiter

variable {r : RateLimiter} {key : String} {deadline : Moment}

/-! ## The deadline of a caller -/

/-- The bucket of a caller is ready by a deadline, if there is one; a new one would be full. -/
def IsReadyBy (r : RateLimiter) (key : String) (deadline : Moment) : Prop :=
  ∀ b, r.buckets.get? key = some b → b.IsReadyBy r.limit deadline

theorem isReadyBy_bucket
    (hburst : 1 ≤ r.limit.burst) (h : r.IsReadyBy key deadline) (now : Moment) :
    (r.bucket now key).IsReadyBy r.limit deadline := by
  unfold bucket
  cases hb : r.buckets.get? key with
  | none =>
      have hcapacity := RateLimit.one_le_capacity hburst
      have hinflow := r.limit.inflow_nonneg (Moment.until_nonneg now deadline)
      simp only [Option.getD_none, TokenBucket.IsReadyBy, TokenBucket.full]
      grind
  | some b => exact h b hb

/-- From the deadline on, a check is let through. -/
theorem allowed_of_isReadyBy
    (hburst : 1 ≤ r.limit.burst) (h : r.IsReadyBy key deadline) {now : Moment}
    (hnow : deadline ≤ now) :
    (r.check now key).1 = .allowed :=
  (TokenBucket.allowed_iff_isReadyBy hburst).mpr
    (TokenBucket.isReadyBy_mono (isReadyBy_bucket hburst h now) hnow)

/-- The step: an event keeps the deadline of a caller, unless it lets a check of that caller
through. -/
theorem isReadyBy_step
    (hburst : 1 ≤ r.limit.burst) (h : r.IsReadyBy key deadline) {e : Event}
    (hquiet : ∀ a, r.reply? key e = some a → a.verdict ≠ .allowed) :
    (r.step e).IsReadyBy key deadline := by
  intro b hb
  rw [limit_step]
  cases e with
  | check now k =>
      rw [step, get?_check] at hb
      by_cases hk : k = key
      · subst hk
        rw [if_pos rfl] at hb
        cases hb
        have hrejected : ((r.bucket now k).acquire r.limit now).1 ≠ .allowed :=
          hquiet ⟨now, (r.check now k).1⟩ (if_pos rfl)
        exact TokenBucket.isReadyBy_acquire hburst (isReadyBy_bucket hburst h now) hrejected
      · rw [if_neg hk] at hb
        exact h b hb
  | cleanup now maxAge =>
      rw [step, get?_cleanup] at hb
      exact h b (Option.eq_some_of_filter_eq_some hb)

/-- The run: so do events one after another. -/
theorem isReadyBy_after
    (hburst : 1 ≤ r.limit.burst) (h : r.IsReadyBy key deadline) {events : List Event}
    (hquiet : ∀ a ∈ r.replies key events, a.verdict ≠ .allowed) :
    (r.after events).IsReadyBy key deadline := by
  induction events generalizing r with
  | nil => exact h
  | cons e rest ih =>
      have hfirst : ∀ a, r.reply? key e = some a → a.verdict ≠ .allowed := by
        intro a ha
        apply hquiet a
        rw [replies]
        exact List.mem_append_left _ (Option.mem_toList.mpr ha)
      have hrest : ∀ a ∈ (r.step e).replies key rest, a.verdict ≠ .allowed := by
        intro a ha
        apply hquiet a
        rw [replies]
        exact List.mem_append_right _ ha
      have hburst' : 1 ≤ (r.step e).limit.burst := by
        rw [limit_step]
        exact hburst
      exact ih hburst' (isReadyBy_step hburst h hfirst) hrest

/-! ## The wait that a caller is told -/

/-- The bucket that a check leaves is the only one that the deadline of the caller depends on. -/
theorem isReadyBy_check {now : Moment} :
    (r.check now key).2.IsReadyBy key deadline ↔
      ((r.bucket now key).acquire r.limit now).2.IsReadyBy r.limit deadline := by
  simp [IsReadyBy, get?_check, limit_check]

/-- A caller who is rejected, in whatever state, is told to wait for at least a second.  Whenever
that time has passed the caller is let through, if no other check of the caller was let through
meanwhile: however many of them were rejected, whatever other callers did and whatever buckets were
dropped.  And no shorter wait of whole seconds, at least one, would have been enough. -/
theorem retryAfter_kept
    {now : Moment} {retryAfter : Nat} (hrate : 1 ≤ r.limit.rate) (hburst : 1 ≤ r.limit.burst)
    (hrejected : (r.check now key).1 = .rejected retryAfter) :
    1 ≤ retryAfter ∧
      (∀ between later,
        (∀ a ∈ (r.check now key).2.replies key between, a.verdict ≠ .allowed) →
        now + retryAfter ≤ later →
        (((r.check now key).2.after between).check later key).1 = .allowed) ∧
      ∀ seconds : Nat, 1 ≤ seconds →
        ((r.check now key).2.check (now + seconds) key).1 = .allowed → retryAfter ≤ seconds := by
  have hleast := TokenBucket.retryAfter_le_iff hrate hburst hrejected
  obtain ⟨hone, hready⟩ := (hleast retryAfter).mp (Nat.le_refl retryAfter)
  refine ⟨hone, ?_, ?_⟩
  · intro between later hquiet hlater
    have hdeadline : (r.check now key).2.IsReadyBy key (now + retryAfter) :=
      isReadyBy_check.mpr hready
    have hafter : 1 ≤ (r.check now key).2.limit.burst := hburst
    have hkept := isReadyBy_after hafter hdeadline hquiet
    rw [← limit_after _ between] at hafter
    exact allowed_of_isReadyBy hafter hkept hlater
  · intro seconds hseconds hallowed
    have hbucket :
        (r.check now key).2.bucket (now + seconds) key =
          ((r.bucket now key).acquire r.limit now).2 := by
      rw [bucket, get?_check, if_pos rfl, Option.getD_some]
    have hready' := (TokenBucket.allowed_iff_isReadyBy hburst).mp hallowed
    rw [hbucket] at hready'
    exact (hleast seconds).mpr ⟨hseconds, hready'⟩

/-- A limiter with buckets of one token, and a caller who has just taken it. -/
def drained : RateLimiter :=
  (start ⟨1, 1⟩).after [.check 0 "a"]

/-- What happens in the second after that caller was rejected: two more checks of the caller, and
two of another one, whose bucket is forgotten between them. -/
def impatientRun : List Event :=
  [.check (1 / 2) "a", .check (2 / 3) "b", .check (3 / 4) "a", .cleanup 1 (3 / 10), .check 1 "b"]

/-- The caller is told to wait for a second, is rejected twice in it, and then is let through. -/
theorem retryAfter_kept_impatientRun :
    1 ≤ drained.limit.rate ∧ 1 ≤ drained.limit.burst ∧
      (drained.check (1 / 4) "a").1 = .rejected 1 ∧
      ((drained.check (1 / 4) "a").2.replies "a" impatientRun).length = 2 ∧
      (∀ a ∈ (drained.check (1 / 4) "a").2.replies "a" impatientRun, a.verdict ≠ .allowed) ∧
      (((drained.check (1 / 4) "a").2.after impatientRun).check (5 / 4) "a").1 = .allowed := by
  have hrate : 1 ≤ drained.limit.rate := by decide +kernel
  have hburst : 1 ≤ drained.limit.burst := by decide +kernel
  have hrejected : (drained.check (1 / 4) "a").1 = .rejected 1 := by decide +kernel
  have hquiet :
      ∀ a ∈ (drained.check (1 / 4) "a").2.replies "a" impatientRun, a.verdict ≠ .allowed := by
    decide +kernel
  obtain ⟨-, hkept, -⟩ := retryAfter_kept hrate hburst hrejected
  exact ⟨hrate, hburst, hrejected, by decide +kernel, hquiet,
    hkept impatientRun (5 / 4) hquiet (by decide +kernel)⟩

/-- In a limiter that starts with full buckets, no caller is told to wait for more than a second: no
bucket is ever overdrawn, and at least one token flows in each second, or none at all. -/
theorem retryAfter_eq_one
    {limit : RateLimit} {events : List Event} {now : Moment} {retryAfter : Nat}
    (hrejected : (((start limit).after events).check now key).1 = .rejected retryAfter) :
    retryAfter = 1 := by
  have hsound := isSound_bucket (isSound_after (isSound_start limit) events) now key
  simp only [check, TokenBucket.acquire] at hrejected
  split at hrejected
  · cases hrejected
  · cases hrejected
    exact RateLimit.wait_of_nonneg _ (TokenBucket.isSound_refill hsound).1

end RateLimiter
end Service
end AnalyticsQuery
