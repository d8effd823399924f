import AnalyticsQuery.Monitor.Histogram
import Mathlib.Algebra.BigOperators.Group.List.Basic
import Mathlib.Data.UInt
import Mathlib.Tactic.SplitIfs

/-!
# What a histogram tells about the durations it was given

The bounds of the buckets ascend, so each duration has one bucket: the one whose
bound is not below it, and whose predecessor's is.  That is where the search for
its counter ends.  Each duration then moves one counter, the sum and the total,
and two that come one after the other may change places.

* `takes_iff_slot_eq`: the durations of a bucket are those whose counter it shows.
* `getElem_counters_after`, `sum_after`, `count_after`: counters, sum and total
  after a run of durations, from what one of them does.
* `isBalanced_after`: counters that add up to the total go on doing so.
* `after_eq_of_perm`: the order of a run leaves no trace.
* `tells_after`: the buckets, the sum and the total of a histogram that starts
  with nothing.
-/

namespace AnalyticsQuery
namespace Monitor

/-- A bucket behind another one takes the durations over the bound of that one, up to its own; a
first bucket takes all durations up to its bound. -/
def Bucket.Takes (previous : Option Bucket) (b : Bucket) (ms : UInt64) : Prop :=
  (∀ p ∈ previous, p.bound < ms) ∧ ms ≤ b.bound

instance (previous : Option Bucket) (b : Bucket) : DecidablePred (Bucket.Takes previous b) :=
  fun _ => inferInstanceAs (Decidable (_ ∧ _))

/-- A sum of words is the sum of the numbers they stand for, less what wrapped. -/
theorem toNat_sum (l : List UInt64) : l.sum.toNat = (l.map UInt64.toNat).sum % 2 ^ 64 := by
  induction l with
  | nil => rfl
  | cons w rest ih =>
      rw [List.sum_cons, UInt64.toNat_add, ih, List.map_cons, List.sum_cons, Nat.add_mod_mod]

namespace Histogram

/-- The histogram with some more durations, observed one after another. -/
def after (h : Histogram) (durations : List UInt64) : Histogram :=
  durations.foldl observe h

@[simp]
theorem after_nil (h : Histogram) : h.after [] = h := rfl

@[simp]
theorem after_cons (h : Histogram) (ms : UInt64) (durations : List UInt64) :
    h.after (ms :: durations) = (h.observe ms).after durations := rfl

/-! ## The bucket of a duration -/

section Search

variable {front rest : List UInt64} {bound : UInt64}

theorem ascending_bounds : bounds.Pairwise (· < ·) := by
  decide

theorem findIdx_eq_length_iff {p : UInt64 → Bool} :
    (front ++ bound :: rest).findIdx p = front.length ↔
      (∀ b ∈ front, p b = false) ∧ p bound = true := by
  induction front with
  | nil =>
      cases hp : p bound <;> simp [List.findIdx_cons, hp]
  | cons b front ih =>
      cases hp : p b <;> simp [List.findIdx_cons, hp, ih]

/-- Ascending bounds are all below a duration as soon as the last of them is. -/
theorem forall_lt_iff_of_ascending (h : front.Pairwise (· < ·)) (ms : UInt64) :
    (∀ b ∈ front, b < ms) ↔ ∀ b ∈ front.getLast?, b < ms := by
  constructor
  · intro hall b hb
    exact hall b (List.mem_of_getLast? hb)
  · intro hlast b hb
    obtain ⟨most, last, rfl⟩ :=
      (List.eq_nil_or_concat' front).resolve_left (List.ne_nil_of_mem hb)
    have hlt : last < ms := hlast last (by simp)
    rcases List.mem_append.mp hb with hb | hb
    · have hb : b < last := (List.pairwise_append.mp h).2.2 b hb last (List.mem_singleton_self last)
      exact UInt64.lt_trans hb hlt
    · rw [List.mem_singleton] at hb
      rwa [hb]

/-- No duration is over the greatest one, so its bound stands for the place behind all others. -/
theorem slot_eq_findIdx (ms : UInt64) : (slot ms).val = bounds.findIdx fun b => ms ≤ b := by
  rw [bounds, List.findIdx_append]
  split
  · rfl
  · rename_i hnone
    have hlength : (slot ms).val = durationBounds.length :=
      Nat.le_antisymm List.findIdx_le_length (Nat.not_lt.mp hnone)
    simp [hlength, le_maxDuration]

end Search

section Place

variable {h : Histogram} {front rest : List Bucket} {b : Bucket}
  (hbuckets : h.buckets = front ++ b :: rest)

include hbuckets

theorem bounds_eq_of_buckets_eq :
    bounds = front.map Bucket.bound ++ b.bound :: rest.map Bucket.bound := by
  rw [← bounds_buckets h, hbuckets, List.map_append, List.map_cons]

theorem takes_iff_slot_eq (ms : UInt64) :
    Bucket.Takes front.getLast? b ms ↔ (slot ms).val = front.length := by
  have hbounds := bounds_eq_of_buckets_eq hbuckets
  have hascending : (front.map Bucket.bound).Pairwise (· < ·) := by
    have hall := ascending_bounds
    rw [hbounds] at hall
    exact (List.pairwise_append.mp hall).1
  -- A search ends at the first bound that will do; that the one before it will not is enough for
  -- all the others.
  have hlast := forall_lt_iff_of_ascending hascending ms
  rw [slot_eq_findIdx, hbounds, ← List.length_map Bucket.bound, findIdx_eq_length_iff]
  simp only [decide_eq_false_iff_not, UInt64.not_le, decide_eq_true_eq, hlast]
  simp [Bucket.Takes, List.getLast?_map]

theorem getElem?_counters_of_buckets_eq : h.counters[front.length]? = some b.count := by
  rw [← Vector.getElem?_toList, ← counts_buckets, hbuckets]
  simp

end Place

/-! ## One duration after another -/

section Run

variable (h : Histogram) (durations : List UInt64)

/-- A counter has counted the durations whose search ended at its place. -/
theorem getElem_counters_after {i : Nat} (hi : i < durationBounds.length + 1) :
    (h.after durations).counters[i] =
      h.counters[i] + UInt64.ofNat (durations.countP fun ms => (slot ms).val = i) := by
  -- The first duration makes another histogram of `h`, from which the others are counted.
  induction durations generalizing h with
  | nil => simp
  | cons ms rest ih =>
      rw [after_cons, ih, getElem_counters_observe h ms hi, List.countP_cons]
      by_cases hslot : (slot ms).val = i
      · rw [if_pos hslot, if_pos (decide_eq_true hslot), UInt64.ofNat_add]
        ac_rfl
      · simp [hslot]

theorem sum_after : (h.after durations).sum = h.sum + durations.sum := by
  induction durations generalizing h with
  | nil => simp
  | cons ms rest ih => rw [after_cons, ih, sum_observe, List.sum_cons, UInt64.add_assoc]

theorem count_after :
    (h.after durations).count = h.count + UInt64.ofNat durations.length := by
  induction durations generalizing h with
  | nil => simp
  | cons ms rest ih =>
      rw [after_cons, ih, count_observe, List.length_cons, Nat.add_comm, UInt64.ofNat_add,
        ← UInt64.add_assoc]
      rfl

end Run

/-! ## Counters and total -/

/-- The counters add up to the total, as words. -/
def IsBalanced (h : Histogram) : Prop :=
  h.counters.toList.sum = h.count

theorem isBalanced_empty : empty.IsBalanced := by
  simp [IsBalanced, empty]

theorem isBalanced_observe {h : Histogram} (hbalanced : h.IsBalanced) (ms : UInt64) :
    (h.observe ms).IsBalanced := by
  have hlength : (slot ms).val < h.counters.toList.length := by
    rw [Vector.length_toList]
    exact (slot ms).isLt
  have hgrows : (h.observe ms).counters.toList.sum = h.counters.toList.sum + 1 := by
    rw [observe, Vector.toList_set, List.sum_set', dif_pos hlength, Vector.getElem_toList]
    simp
  rw [IsBalanced, hgrows, hbalanced, count_observe]

theorem isBalanced_after {h : Histogram} (hbalanced : h.IsBalanced) (durations : List UInt64) :
    (h.after durations).IsBalanced := by
  induction durations generalizing h with
  | nil => exact hbalanced
  | cons ms rest ih => exact ih (isBalanced_observe hbalanced ms)

/-! ## Order -/

theorem observe_observe (h : Histogram) (a b : UInt64) :
    (h.observe a).observe b = (h.observe b).observe a := by
  ext i hi
  · simp only [getElem_counters_observe]
    split_ifs <;> rfl
  · simp only [sum_observe]
    ac_rfl
  · rfl

theorem after_eq_of_perm {durations others : List UInt64} (hperm : durations.Perm others)
    (h : Histogram) :
    h.after durations = h.after others :=
  hperm.foldl_eq' (fun a _ b _ h => observe_observe h a b) h

/-! ## Reports -/

/-- What a histogram reports of some durations.  Its numbers are words, so they are those of the
durations up to multiples of `2 ^ 64`. -/
structure Tells (h : Histogram) (durations : List UInt64) : Prop where
  bounds_eq : h.buckets.map Bucket.bound = bounds
  ascending : (h.buckets.map Bucket.bound).Pairwise (· < ·)
  /-- A bucket counts the durations over the bound before it, if there is one, up to its own. -/
  counted : ∀ front b rest, h.buckets = front ++ b :: rest →
    b.count.toNat = durations.countP (fun ms => Bucket.Takes front.getLast? b ms) % 2 ^ 64
  /-- The last bucket counts all durations over the last of the other bounds. -/
  last : ∃ front b, h.buckets = front ++ [b] ∧ b.bound = maxDuration ∧
    b.count.toNat = durations.countP (fun ms => 30000 < ms) % 2 ^ 64
  counts_add_up : (h.buckets.map fun b => b.count.toNat).sum % 2 ^ 64 = h.count.toNat
  count_eq : h.count.toNat = durations.length % 2 ^ 64
  sum_eq : h.sum.toNat = (durations.map UInt64.toNat).sum % 2 ^ 64

theorem toNat_count_of_buckets_eq
    {durations : List UInt64} {front rest : List Bucket} {b : Bucket}
    (hbuckets : (empty.after durations).buckets = front ++ b :: rest) :
    b.count.toNat =
      durations.countP (fun ms => Bucket.Takes front.getLast? b ms) % 2 ^ 64 := by
  obtain ⟨hplace, hcount⟩ :=
    Vector.getElem?_eq_some_iff.mp (getElem?_counters_of_buckets_eq hbuckets)
  have hempty : empty.counters[front.length] = 0 := by
    simp [empty]
  rw [← hcount, getElem_counters_after, hempty, UInt64.zero_add, UInt64.toNat_ofNat']
  congr 1
  apply List.countP_congr
  intro ms _
  simp only [decide_eq_true_eq, takes_iff_slot_eq hbuckets]

/-- The bucket behind all others takes the durations over the last of their bounds, with no bound
of its own to keep. -/
theorem exists_last_bucket (h : Histogram) :
    ∃ front b, h.buckets = front ++ [b] ∧ b.bound = maxDuration ∧
      ∀ ms, Bucket.Takes front.getLast? b ms ↔ 30000 < ms := by
  have hne : h.buckets ≠ [] := by
    intro hnil
    have hbounds := bounds_buckets h
    rw [hnil] at hbounds
    exact absurd hbounds (by decide)
  obtain ⟨front, b, hbuckets⟩ := (List.eq_nil_or_concat' h.buckets).resolve_left hne
  have hbounds : durationBounds ++ [maxDuration] = front.map Bucket.bound ++ [b.bound] :=
    bounds_eq_of_buckets_eq hbuckets
  obtain ⟨hfront, hlast⟩ := List.append_inj' hbounds rfl
  have hmax : b.bound = maxDuration := (List.singleton_inj.mp hlast).symm
  refine ⟨front, b, hbuckets, hmax, ?_⟩
  intro ms
  have hall : ms ≤ b.bound := by
    rw [hmax]
    exact le_maxDuration ms
  have hprevious : front.getLast?.map Bucket.bound = some 30000 := by
    rw [← List.getLast?_map, ← hfront]
    rfl
  obtain ⟨p, hp, hbound⟩ := Option.map_eq_some_iff.mp hprevious
  simp [Bucket.Takes, hp, hbound, hall]

theorem sum_counts_of_isBalanced {h : Histogram} (hbalanced : h.IsBalanced) :
    (h.buckets.map fun b => b.count.toNat).sum % 2 ^ 64 = h.count.toNat := by
  have hcounts : (h.buckets.map fun b => b.count.toNat) = h.counters.toList.map UInt64.toNat := by
    rw [← counts_buckets, List.map_map]
    rfl
  rw [hcounts, ← toNat_sum, hbalanced]

/-- The buckets of a histogram have ascending bounds and count the durations between them, their
counts add up to the number of all durations, and its sum is that of all durations, as far as words
go; the order in which the durations were observed does not show. -/
theorem tells_after (durations : List UInt64) :
    (empty.after durations).Tells durations ∧
      ∀ others, others.Perm durations → empty.after others = empty.after durations := by
  refine ⟨?_, fun others hperm => after_eq_of_perm hperm empty⟩
  obtain ⟨front, b, hbuckets, hmax, htakes⟩ := exists_last_bucket (empty.after durations)
  exact
    { bounds_eq := bounds_buckets _
      ascending := by
        rw [bounds_buckets]
        exact ascending_bounds
      counted := fun front b rest hbuckets => toNat_count_of_buckets_eq hbuckets
      last := by
        have hcount := toNat_count_of_buckets_eq hbuckets
        simp only [htakes] at hcount
        exact ⟨front, b, hbuckets, hmax, hcount⟩
      counts_add_up := sum_counts_of_isBalanced (isBalanced_after isBalanced_empty durations)
      count_eq := by
        rw [count_after]
        simp [empty]
      sum_eq := by
        rw [sum_after, ← toNat_sum]
        simp [empty] }

/-- Durations at the bounds and next to them, with a sum that wraps. -/
def edgeDurations : List UInt64 :=
  [0, 5, 6, 10, 30000, 30001, maxDuration, maxDuration]

/-- Observed backwards, these durations leave the same counts and the same sum. -/
theorem tells_after_edgeDurations :
    edgeDurations.reverse.Perm edgeDurations ∧
      (empty.after edgeDurations).Tells edgeDurations ∧
      empty.after edgeDurations.reverse = empty.after edgeDurations ∧
      (empty.after edgeDurations).buckets.map Bucket.count = [2, 2, 0, 0, 0, 0, 0, 0, 0, 1, 3] ∧
      (empty.after edgeDurations).count = 8 ∧
      (empty.after edgeDurations).sum = 60020 := by
  have hperm : edgeDurations.reverse.Perm edgeDurations := List.reverse_perm edgeDurations
  obtain ⟨htells, horder⟩ := tells_after edgeDurations
  exact ⟨hperm, htells, horder edgeDurations.reverse hperm, by decide, by decide, by decide⟩

end Histogram
end Monitor
end AnalyticsQuery
