import AnalyticsQuery.Json.Basic

/-!
# Integers among the binary64 numbers

An integer of the 64-bit range lies far below the greatest finite binary64 number,
so there is a number nearest to it.  Hence every JSON number has a finite value.

* `roundRatio_lt_limit`: the rounding of such an integer.
* `Number.exists_toBinary64?`: every JSON number.
-/

namespace AnalyticsQuery
namespace Binary64

theorem roundDiv_le (num den : Nat) : roundDiv num den ≤ num / den + 1 := by
  simp only [roundDiv]
  split
  · omega
  · split
    · omega
    · split <;> omega

/-- An integer as a ratio, in units of a power of two. -/
def inUnits (num : Nat) (e : Int) : Nat × Nat :=
  if e < 0 then (num * Nat.pow 2 (-e).toNat, 1) else (num, 1 * Nat.pow 2 e.toNat)

/-- In the units that it is rounded to, an integer has at most 54 binary digits. -/
theorem inUnits_lt {num : Nat} {e : Int} (h : (num.log2 : Int) - 53 ≤ e) :
    (inUnits num e).1 / (inUnits num e).2 < 4 * octave := by
  have hlog : num < 2 ^ (num.log2 + 1) := Nat.lt_log2_self
  have hoctaves : 2 ^ 54 = 4 * octave := by decide
  rw [← hoctaves]
  unfold inUnits
  by_cases hnegative : e < 0
  · simp only [if_pos hnegative, Nat.div_one]
    calc num * 2 ^ (-e).toNat
        < 2 ^ (num.log2 + 1) * 2 ^ (-e).toNat :=
          Nat.mul_lt_mul_of_pos_right hlog (Nat.two_pow_pos _)
      _ = 2 ^ (num.log2 + 1 + (-e).toNat) := (Nat.pow_add 2 _ _).symm
      _ ≤ 2 ^ 54 := Nat.pow_le_pow_right (by omega) (by omega)
  · simp only [if_neg hnegative, Nat.one_mul]
    refine Nat.div_lt_of_lt_mul ?_
    calc num
        < 2 ^ (num.log2 + 1) := hlog
      _ ≤ 2 ^ (e.toNat + 54) := Nat.pow_le_pow_right (by omega) (by omega)
      _ = 2 ^ e.toNat * 2 ^ 54 := Nat.pow_add 2 _ _

theorem exists_roundRatio_eq {num : Nat} (hne : num ≠ 0) (h : num.log2 < 64) :
    ∃ e : Int, (num.log2 : Int) - 53 ≤ e ∧ e ≤ 11 ∧
      roundRatio num 1 =
        (e + 1074).toNat * octave + roundDiv (inUnits num e).1 (inUnits num e).2 := by
  have hone : Nat.log2 1 = 0 := by decide
  unfold roundRatio
  simp only [if_neg hne, hone]
  refine ⟨_, ?_, ?_, rfl⟩
  · split <;> split <;> omega
  · split <;> split <;> omega

theorem roundRatio_lt_limit {num : Nat} (h : num < 18446744073709551616) :
    roundRatio num 1 < limit := by
  by_cases hzero : num = 0
  · subst hzero
    decide
  · obtain ⟨e, hleast, hgreatest, heq⟩ := exists_roundRatio_eq hzero ((Nat.log2_lt hzero).mpr h)
    have hmantissa := inUnits_lt hleast
    have hround := roundDiv_le (inUnits num e).1 (inUnits num e).2
    have hexponent : (e + 1074).toNat * octave ≤ 1085 * octave :=
      Nat.mul_le_mul_right _ (by omega)
    rw [heq]
    simp only [limit, octave] at hmantissa hexponent ⊢
    omega

end Binary64

/-- Every JSON number has a finite value. -/
theorem Number.exists_toBinary64? (n : Number) : ∃ x, n.toBinary64? = some x := by
  cases n with
  | int value fits =>
      have hlt : Binary64.roundRatio value.natAbs 1 < Binary64.limit :=
        Binary64.roundRatio_lt_limit (by omega)
      exact ⟨_, dif_pos hlt⟩
  | float x => exact ⟨x, rfl⟩

end AnalyticsQuery
