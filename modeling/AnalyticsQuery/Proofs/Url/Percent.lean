import AnalyticsQuery.Proofs.Text.Utf8
import AnalyticsQuery.Url.Percent

/-!
# Percent coding read back

Each byte that is written in percent coding is read back, whatever follows it.
A coding that writes the percent sign itself in this way loses nothing: the
bytes that it stands for are those of the text.  Beside percent signs and digits
it brings in no characters, and it leaves none of those that it codes.

* `percentDecode_percentByte`: one byte is read back.
* `percentDecode_percentEncode`: the bytes of a text are read back.
* `mem_percentEncode`: the characters of a coded text.
-/

namespace AnalyticsQuery
namespace Url

/-- Bytes other than the percent sign stand for themselves. -/
theorem percentDecode_cons {b : UInt8} (h : b ≠ 0x25) (rest : List UInt8) :
    percentDecode (b :: rest) = b :: percentDecode rest := by
  match rest with
  | [] => rfl
  | [_] => rfl
  | _ :: _ :: _ => rw [percentDecode, if_neg h]

theorem percentDecode_digits
    {high low : UInt8} {x y : Nat} (hx : hexByte? high = some x) (hy : hexByte? low = some y)
    (rest : List UInt8) :
    percentDecode (0x25 :: high :: low :: rest) =
      (16 * x + y).toUInt8 :: percentDecode rest := by
  rw [percentDecode, if_pos rfl, hx, hy]

theorem upperHexDigit_spec :
    ∀ n < 16, (upperHexDigit n).toNat < 0x80 ∧ upperHexDigit n ≠ '+' ∧
      hexByte? (upperHexDigit n).toNat.toUInt8 = some n := by
  decide

/-- A byte is read back from its coding, whatever follows it. -/
theorem percentDecode_percentByte (b : UInt8) (rest : List Char) :
    percentDecode (Text.utf8Bytes (percentByte b ++ rest)) =
      b :: percentDecode (Text.utf8Bytes rest) := by
  have hb : b.toNat < 256 := b.toNat_lt
  obtain ⟨hhigh, -, hhighValue⟩ := upperHexDigit_spec (b.toNat / 16) (by omega)
  obtain ⟨hlow, -, hlowValue⟩ := upperHexDigit_spec (b.toNat % 16) (by omega)
  have hvalue : (16 * (b.toNat / 16) + b.toNat % 16).toUInt8 = b := by
    rw [Nat.div_add_mod]
    exact UInt8.ofNat_toNat
  have hdigits := percentDecode_digits hhighValue hlowValue (Text.utf8Bytes rest)
  rw [hvalue] at hdigits
  rw [percentByte, List.cons_append, List.cons_append, List.cons_append, List.nil_append,
    Text.utf8Bytes_cons_of_lt (by decide), Text.utf8Bytes_cons_of_lt hhigh,
    Text.utf8Bytes_cons_of_lt hlow]
  exact hdigits

theorem percentDecode_percentBytes (bytes : List UInt8) (rest : List Char) :
    percentDecode (Text.utf8Bytes (bytes.flatMap percentByte ++ rest)) =
      bytes ++ percentDecode (Text.utf8Bytes rest) := by
  induction bytes with
  | nil => rfl
  | cons b bytes ih =>
      rw [List.flatMap_cons, List.append_assoc, percentDecode_percentByte, ih, List.cons_append]

/-- The bytes of a text are read back from a coding that codes the percent sign too. -/
theorem percentDecode_percentEncode
    {coded : Char → Bool} (h : coded '%' = true) (cs : List Char) :
    percentDecode (Text.utf8Bytes (percentEncode coded cs)) = Text.utf8Bytes cs := by
  induction cs with
  | nil => rfl
  | cons c rest ih =>
      have hbytes : Text.utf8Bytes (c :: rest) = Text.pointBytes c.toNat ++ Text.utf8Bytes rest :=
        List.flatMap_cons
      rw [percentEncode, List.flatMap_cons, hbytes, ← ih]
      split
      · rename_i hplain
        simp only [Bool.and_eq_true, decide_eq_true_eq, Bool.not_eq_true'] at hplain
        have hpercent : c.toNat.toUInt8 ≠ 0x25 := by
          intro heq
          have hnat := congrArg UInt8.toNat heq
          rw [Text.toNat_toUInt8 (by omega)] at hnat
          have hchar : c = '%' := Char.toNat_inj.mp hnat
          rw [hchar, h] at hplain
          exact absurd hplain.2 (by decide)
        rw [List.singleton_append, Text.utf8Bytes_cons_of_lt hplain.1, percentDecode_cons hpercent,
          Text.pointBytes, if_pos hplain.1]
        rfl
      · exact percentDecode_percentBytes _ _

/-- A character of a percent coding. -/
def IsCoding (c : Char) : Prop :=
  c = '%' ∨ ∃ n < 16, c = upperHexDigit n

theorem isCoding_of_mem_percentByte {c : Char} {b : UInt8} (h : c ∈ percentByte b) :
    IsCoding c := by
  have hb : b.toNat < 256 := b.toNat_lt
  simp only [percentByte, List.mem_cons, List.not_mem_nil, or_false] at h
  rcases h with rfl | rfl | rfl
  · exact Or.inl rfl
  · exact Or.inr ⟨_, by omega, rfl⟩
  · exact Or.inr ⟨_, by omega, rfl⟩

/-- A coded text has the characters of percent codings, and those of the text that are not coded. -/
theorem mem_percentEncode
    {coded : Char → Bool} {cs : List Char} {c : Char} (h : c ∈ percentEncode coded cs) :
    IsCoding c ∨ c ∈ cs ∧ c.toNat < 128 ∧ coded c = false := by
  obtain ⟨d, hd, hmem⟩ := List.mem_flatMap.mp h
  split at hmem
  · rename_i hplain
    simp only [Bool.and_eq_true, decide_eq_true_eq, Bool.not_eq_true'] at hplain
    rw [List.mem_singleton] at hmem
    subst hmem
    exact Or.inr ⟨hd, hplain⟩
  · obtain ⟨b, -, hb⟩ := List.mem_flatMap.mp hmem
    exact Or.inl (isCoding_of_mem_percentByte hb)

/-- Coding leaves no character out. -/
theorem percentEncode_ne_nil {coded : Char → Bool} {cs : List Char} (h : cs ≠ []) :
    percentEncode coded cs ≠ [] := by
  cases cs with
  | nil => exact absurd rfl h
  | cons c rest =>
      have hbytes : Text.pointBytes c.toNat ≠ [] := by
        unfold Text.pointBytes
        split
        · exact List.cons_ne_nil _ _
        · split
          · exact List.cons_ne_nil _ _
          · split <;> exact List.cons_ne_nil _ _
      rw [percentEncode, List.flatMap_cons]
      split
      · exact List.cons_ne_nil _ _
      · cases hb : Text.pointBytes c.toNat with
        | nil => exact absurd hb hbytes
        | cons b bytes => exact List.cons_ne_nil _ _

end Url
end AnalyticsQuery
