import AnalyticsQuery.Decimal.Binary64

/-!
# Histograms of durations

A histogram counts durations, in milliseconds, by size.  Each bound has a
counter for the durations up to it that are over the bound before, and one more
counter takes those over all bounds.  Counters and the sum of all durations are
64-bit words and wrap.

A histogram is read as a list of buckets, with the greatest duration there is as
the bound of the last one.  The bounds never change (`bounds_buckets`), and a
duration changes one counter alone (`getElem_counters_observe`).
-/

namespace AnalyticsQuery
namespace Monitor

/-- The durations up to a bound. -/
structure Bucket where
  bound : UInt64
  count : UInt64
deriving DecidableEq, Repr

/-- The greatest duration. -/
def maxDuration : UInt64 := 18446744073709551615

theorem le_maxDuration (ms : UInt64) : ms ≤ maxDuration :=
  UInt64.le_iff_toNat_le.mpr (Nat.le_of_lt_succ ms.toNat_lt)

/-- The bounds that durations are compared with. -/
def durationBounds : List UInt64 :=
  [5, 10, 25, 50, 100, 250, 500, 1000, 5000, 30000]

/-- Durations counted by size. -/
@[ext]
structure Histogram where
  /-- A counter for each bound, and behind them one for the durations over all bounds. -/
  counters : Vector UInt64 (durationBounds.length + 1)
  sum : UInt64
  count : UInt64
deriving DecidableEq, Repr

namespace Histogram

/-- The histogram of no durations. -/
def empty : Histogram where
  counters := Vector.replicate _ 0
  sum := 0
  count := 0

/-- The place of the counter for a duration: that of the first bound that is not below it, or the
one behind all bounds. -/
def slot (ms : UInt64) : Fin (durationBounds.length + 1) :=
  ⟨durationBounds.findIdx fun bound => ms ≤ bound, Nat.lt_succ_of_le List.findIdx_le_length⟩

/-- The histogram with one more duration. -/
def observe (h : Histogram) (ms : UInt64) : Histogram where
  counters := h.counters.set (slot ms) (h.counters[slot ms] + 1)
  sum := h.sum + ms
  count := h.count + 1

/-- The upper bounds of all buckets. -/
def bounds : List UInt64 :=
  durationBounds ++ [maxDuration]

/-- The counters with their bounds. -/
def buckets (h : Histogram) : List Bucket :=
  (bounds.zip h.counters.toList).map fun (bound, count) => ⟨bound, count⟩

/--
The mean of the durations: the quotient of sum and count, each taken as a
binary64 number; zero when there are none.
-/
def mean (h : Histogram) : Binary64 :=
  if h.count = 0 then Binary64.zero false
  else
    let quotient := do
      let sum ← Binary64.ofInt? h.sum.toNat
      let count ← Binary64.ofInt? h.count.toNat
      sum.div? count
    quotient.getD (Binary64.zero false)

theorem bounds_buckets (h : Histogram) : h.buckets.map Bucket.bound = bounds := by
  have hlength : bounds.length ≤ h.counters.toList.length := by simp [bounds]
  rw [buckets, List.map_map]
  exact List.map_fst_zip hlength

theorem counts_buckets (h : Histogram) : h.buckets.map Bucket.count = h.counters.toList := by
  have hlength : h.counters.toList.length ≤ bounds.length := by simp [bounds]
  rw [buckets, List.map_map]
  exact List.map_snd_zip hlength

@[simp]
theorem sum_observe (h : Histogram) (ms : UInt64) : (h.observe ms).sum = h.sum + ms := rfl

@[simp]
theorem count_observe (h : Histogram) (ms : UInt64) : (h.observe ms).count = h.count + 1 := rfl

theorem getElem_counters_observe
    (h : Histogram) (ms : UInt64) {i : Nat} (hi : i < durationBounds.length + 1) :
    (h.observe ms).counters[i] =
      if (slot ms).val = i then h.counters[i] + 1 else h.counters[i] := by
  rw [observe, Vector.getElem_set]
  split
  · subst i
    rfl
  · rfl

end Histogram
end Monitor
end AnalyticsQuery
