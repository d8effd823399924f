import AnalyticsQuery.Text.Utf8

/-!
# Texts read back from their bytes

The bytes of a text decode to that text.  The first byte of a character tells
how many bytes it has, and the others hold six bits each.

* `decodeUnits_pointBytes`: a character is read from its bytes, whatever follows.
* `decodeLossy_utf8Bytes`: a text is read back as it is.
-/

namespace AnalyticsQuery
namespace Text

theorem toNat_toUInt8 {n : Nat} (h : n < 256) : n.toUInt8.toNat = n := by
  simp only [Nat.toUInt8, UInt8.toNat_ofNat', Nat.reducePow]
  omega

/-- A byte that holds six bits continues a character. -/
theorem isContinuation_six {n : Nat} (h : n < 64) : isContinuation (0x80 + n).toUInt8 = true := by
  have hbyte := toNat_toUInt8 (show 0x80 + n < 256 by omega)
  simp only [isContinuation, Bool.and_eq_true, decide_eq_true_eq, UInt8.le_iff_toNat_le, hbyte]
  exact ⟨by simp, by simp; omega⟩

theorem low_six {n : Nat} (h : n < 64) : low (0x80 + n).toUInt8 = n := by
  rw [low, toNat_toUInt8 (by omega)]
  omega

/-- The second byte of a character of three or four bytes is bounded where the first one is at an
end of its range. -/
theorem startsLong_of_ranges
    {x y : Nat} (hx : x < 256) (hy : y < 256)
    (h : 0xE0 ≤ x ∧ x ≤ 0xF4 ∧ 0x80 ≤ y ∧ y ≤ 0xBF)
    (hends : (x = 0xE0 → 0xA0 ≤ y) ∧ (x = 0xED → y ≤ 0x9F) ∧ (x = 0xF0 → 0x90 ≤ y) ∧
      (x = 0xF4 → y ≤ 0x8F)) :
    startsLong x.toUInt8 y.toUInt8 = true := by
  simp only [startsLong, isContinuation, ← UInt8.toNat_inj, UInt8.le_iff_toNat_le,
    toNat_toUInt8 hx, toNat_toUInt8 hy]
  simp only [UInt8.reduceToNat]
  split
  · simp; omega
  · split
    · simp; omega
    · split
      · simp; omega
      · split
        · simp; omega
        · simp; omega

/-! ## One character -/

theorem firstChar_one {n : Nat} (h : n < 0x80) (rest : List UInt8) :
    firstChar n.toUInt8 rest = (some (Char.ofNat n), 1) := by
  have ha := toNat_toUInt8 (show n < 256 by omega)
  have hsmall : n.toUInt8 < 0x80 := by
    rw [UInt8.lt_iff_toNat_lt, ha]
    exact h
  simp only [firstChar, if_pos hsmall, ha]

theorem firstChar_two {n : Nat} (h : 0x80 ≤ n) (hlt : n < 0x800) (rest : List UInt8) :
    firstChar (0xC0 + n / 0x40).toUInt8 ((0x80 + n % 0x40).toUInt8 :: rest) =
      (some (Char.ofNat n), 2) := by
  have ha := toNat_toUInt8 (show 0xC0 + n / 0x40 < 256 by omega)
  have hpoint : (0xC0 + n / 0x40 - 0xC0) * 0x40 + n % 0x40 = n := by
    omega
  simp only [firstChar, UInt8.lt_iff_toNat_lt, UInt8.le_iff_toNat_le, ha,
    isContinuation_six (Nat.mod_lt n (show 0 < 64 by decide)),
    low_six (Nat.mod_lt n (show 0 < 64 by decide)), hpoint]
  simp only [UInt8.reduceToNat]
  split
  · omega
  · split
    · rfl
    · rename_i hrange
      simp at hrange
      omega

theorem firstChar_three
    {n : Nat} (h : 0x800 ≤ n) (hlt : n < 0x10000) (hvalid : n < 0xD800 ∨ 0xDFFF < n)
    (rest : List UInt8) :
    firstChar (0xE0 + n / 0x1000).toUInt8
        ((0x80 + n / 0x40 % 0x40).toUInt8 :: (0x80 + n % 0x40).toUInt8 :: rest) =
      (some (Char.ofNat n), 3) := by
  have ha := toNat_toUInt8 (show 0xE0 + n / 0x1000 < 256 by omega)
  have hstarts :
      startsLong (0xE0 + n / 0x1000).toUInt8 (0x80 + n / 0x40 % 0x40).toUInt8 = true :=
    startsLong_of_ranges (by omega) (by omega) (by omega) (by omega)
  have hpoint :
      (0xE0 + n / 0x1000 - 0xE0) * 0x1000 + n / 0x40 % 0x40 * 0x40 + n % 0x40 = n := by
    omega
  simp only [firstChar, UInt8.lt_iff_toNat_lt, UInt8.le_iff_toNat_le, ha, hstarts,
    isContinuation_six (Nat.mod_lt n (show 0 < 64 by decide)),
    low_six (Nat.mod_lt n (show 0 < 64 by decide)),
    low_six (Nat.mod_lt (n / 0x40) (show 0 < 64 by decide)), hpoint]
  simp only [UInt8.reduceToNat]
  split
  · omega
  · split
    · rename_i hrange
      simp at hrange
      omega
    · simp
      omega

theorem firstChar_four
    {n : Nat} (h : 0x10000 ≤ n) (hlt : n < 0x110000) (rest : List UInt8) :
    firstChar (0xF0 + n / 0x40000).toUInt8
        ((0x80 + n / 0x1000 % 0x40).toUInt8 :: (0x80 + n / 0x40 % 0x40).toUInt8 ::
          (0x80 + n % 0x40).toUInt8 :: rest) =
      (some (Char.ofNat n), 4) := by
  have ha := toNat_toUInt8 (show 0xF0 + n / 0x40000 < 256 by omega)
  have hstarts :
      startsLong (0xF0 + n / 0x40000).toUInt8 (0x80 + n / 0x1000 % 0x40).toUInt8 = true :=
    startsLong_of_ranges (by omega) (by omega) (by omega) (by omega)
  have hpoint :
      (0xF0 + n / 0x40000 - 0xF0) * 0x40000 + n / 0x1000 % 0x40 * 0x1000 +
        n / 0x40 % 0x40 * 0x40 + n % 0x40 = n := by
    omega
  simp only [firstChar, UInt8.lt_iff_toNat_lt, UInt8.le_iff_toNat_le, ha, hstarts,
    isContinuation_six (Nat.mod_lt n (show 0 < 64 by decide)),
    isContinuation_six (Nat.mod_lt (n / 0x40) (show 0 < 64 by decide)),
    low_six (Nat.mod_lt n (show 0 < 64 by decide)),
    low_six (Nat.mod_lt (n / 0x40) (show 0 < 64 by decide)),
    low_six (Nat.mod_lt (n / 0x1000) (show 0 < 64 by decide)), hpoint]
  simp only [UInt8.reduceToNat]
  split
  · omega
  · split
    · rename_i hrange
      simp at hrange
      omega
    · simp

/-! ## Texts -/

theorem decodeUnits_cons
    {a : UInt8} {rest : List UInt8} {c : Option Char} {taken : Nat}
    (h : firstChar a rest = (c, taken)) :
    decodeUnits (a :: rest) = c :: decodeUnits (rest.drop (taken - 1)) := by
  rw [decodeUnits, h]

/-- A character is read from its bytes, whatever follows them. -/
theorem decodeUnits_pointBytes (c : Char) (rest : List UInt8) :
    decodeUnits (pointBytes c.toNat ++ rest) = some c :: decodeUnits rest := by
  have hchar : Char.ofNat c.toNat = c := Char.ofNat_toNat c
  have hvalid : c.toNat < 0xD800 ∨ 0xDFFF < c.toNat ∧ c.toNat < 0x110000 := c.valid
  unfold pointBytes
  split
  · rename_i h
    have hfirst := firstChar_one h rest
    rw [hchar] at hfirst
    exact decodeUnits_cons hfirst
  · split
    · rename_i h hlt
      have hfirst := firstChar_two (Nat.le_of_not_lt h) hlt rest
      rw [hchar] at hfirst
      exact decodeUnits_cons hfirst
    · split
      · rename_i h hlt
        have hfirst := firstChar_three (Nat.le_of_not_lt h) hlt (by omega) rest
        rw [hchar] at hfirst
        exact decodeUnits_cons hfirst
      · rename_i h
        have hfirst := firstChar_four (Nat.le_of_not_lt h) (by omega) rest
        rw [hchar] at hfirst
        exact decodeUnits_cons hfirst

/-- An ASCII character is one byte. -/
theorem utf8Bytes_cons_of_lt {c : Char} (h : c.toNat < 0x80) (rest : List Char) :
    utf8Bytes (c :: rest) = c.toNat.toUInt8 :: utf8Bytes rest := by
  rw [utf8Bytes, List.flatMap_cons, pointBytes, if_pos h]
  rfl

theorem decodeUnits_utf8Bytes (cs : List Char) : decodeUnits (utf8Bytes cs) = cs.map some := by
  induction cs with
  | nil => simp [utf8Bytes, decodeUnits]
  | cons c rest ih =>
      rw [utf8Bytes, List.flatMap_cons, decodeUnits_pointBytes, List.map_cons]
      exact congrArg (some c :: ·) ih

/-- A text is read back from its bytes. -/
theorem decodeLossy_utf8Bytes (cs : List Char) : decodeLossy (utf8Bytes cs) = cs := by
  simp [decodeLossy, decodeUnits_utf8Bytes, Function.comp_def]

/-- The bytes of a text are those of a text. -/
theorem decode?_utf8Bytes (cs : List Char) : decode? (utf8Bytes cs) = some cs := by
  rw [decode?, decodeUnits_utf8Bytes]
  induction cs with
  | nil => rfl
  | cons c rest ih => rw [List.map_cons, List.mapM_cons, ih]; rfl

end Text
end AnalyticsQuery
