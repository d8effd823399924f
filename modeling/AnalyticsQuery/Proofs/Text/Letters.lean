/-!
# Small letters

Spelling in small letters moves the capital letters of ASCII and no other
character.

* `toNat_toLower`: where a character is moved to.
* `eq_of_toLower_eq`: a character that is no letter has one spelling.
-/

namespace AnalyticsQuery
namespace Text

/-- Whether a character is a capital letter of ASCII. -/
def IsCapital (c : Char) : Prop :=
  65 ≤ c.toNat ∧ c.toNat ≤ 90

instance (c : Char) : Decidable (IsCapital c) :=
  inferInstanceAs (Decidable (_ ∧ _))

theorem isUpper_iff (c : Char) : c.isUpper = true ↔ IsCapital c := by
  have hge : 'A'.val ≤ c.val ↔ 65 ≤ c.toNat := UInt32.le_iff_toNat_le
  have hle : c.val ≤ 'Z'.val ↔ c.toNat ≤ 90 := UInt32.le_iff_toNat_le
  have hupper : c.isUpper = decide ('A'.val ≤ c.val ∧ c.val ≤ 'Z'.val) := rfl
  rw [hupper, decide_eq_true_eq, IsCapital, ← hge, ← hle]

theorem toNat_toLower (c : Char) :
    c.toLower.toNat = if IsCapital c then c.toNat + 32 else c.toNat := by
  have hge : 'A'.val ≤ c.val ↔ 65 ≤ c.toNat := UInt32.le_iff_toNat_le
  have hle : c.val ≤ 'Z'.val ↔ c.toNat ≤ 90 := UInt32.le_iff_toNat_le
  unfold Char.toLower
  split
  · rename_i h
    have hcapital : IsCapital c := ⟨hge.mp h.1, hle.mp h.2⟩
    have hstep : ('a'.val - 'A'.val).toNat = 32 := rfl
    have hsum : (c.val + ('a'.val - 'A'.val)).toNat = c.toNat + 32 := by
      rw [UInt32.toNat_add, hstep]
      apply Nat.mod_eq_of_lt
      have hz : c.val.toNat ≤ 90 := hcapital.2
      omega
    rw [if_pos hcapital]
    exact hsum
  · rename_i h
    rw [if_neg]
    rintro ⟨hlow, hhigh⟩
    exact h ⟨hge.mpr hlow, hle.mpr hhigh⟩

theorem toLower_eq_self_iff (c : Char) : c.toLower = c ↔ ¬ IsCapital c := by
  rw [← Char.toNat_inj, toNat_toLower]
  split
  · rename_i h
    simp [h]
  · rename_i h
    simp [h]

/-- What is spelled in small letters has no capital one. -/
theorem not_isCapital_toLower (c : Char) : ¬ IsCapital c.toLower := by
  have hnat := toNat_toLower c
  intro h
  split at hnat
  · rename_i hcapital
    unfold IsCapital at h hcapital
    omega
  · rename_i hsmall
    unfold IsCapital at h hsmall
    omega

theorem toLower_toLower (c : Char) : c.toLower.toLower = c.toLower :=
  (toLower_eq_self_iff _).mpr (not_isCapital_toLower c)

theorem map_toLower_map_toLower (cs : List Char) :
    (cs.map Char.toLower).map Char.toLower = cs.map Char.toLower := by
  rw [List.map_map]
  exact List.map_congr_left fun c _ => toLower_toLower c

theorem toNat_toLower_lt {c : Char} (h : c.toNat < 128) : c.toLower.toNat < 128 := by
  rw [toNat_toLower]
  split
  · rename_i hcapital
    unfold IsCapital at hcapital
    omega
  · exact h

/-- A character that is no letter has one spelling. -/
theorem eq_of_toLower_eq {c d : Char} (h : c.toLower = d) (hd : d.toNat < 97) : c = d := by
  have hnat := toNat_toLower c
  rw [h] at hnat
  apply Char.toNat_inj.mp
  split at hnat
  · rename_i hcapital
    unfold IsCapital at hcapital
    omega
  · exact hnat.symm

theorem isDigit_toLower (c : Char) : c.toLower.isDigit = c.isDigit := by
  have hdigit : ∀ d : Char, d.isDigit = true ↔ 48 ≤ d.toNat ∧ d.toNat ≤ 57 := by
    intro d
    rw [Char.isDigit, Bool.and_eq_true, decide_eq_true_eq, decide_eq_true_eq]
    exact and_congr UInt32.le_iff_toNat_le UInt32.le_iff_toNat_le
  rw [Bool.eq_iff_iff, hdigit, hdigit, toNat_toLower]
  by_cases h : IsCapital c
  · rw [if_pos h]
    unfold IsCapital at h
    omega
  · rw [if_neg h]

theorem toLower_eq_point (c : Char) : c.toLower = '.' ↔ c = '.' := by
  constructor
  · intro h
    exact eq_of_toLower_eq h (by decide)
  · rintro rfl
    decide

/-- A small letter has one spelling beside itself. -/
theorem eq_or_eq_of_toLower_eq {c d : Char} (h : c.toLower = d) :
    c = d ∨ c.toNat + 32 = d.toNat := by
  have hnat := toNat_toLower c
  rw [h] at hnat
  split at hnat
  · exact Or.inr hnat.symm
  · exact Or.inl (Char.toNat_inj.mp hnat.symm)

end Text
end AnalyticsQuery
