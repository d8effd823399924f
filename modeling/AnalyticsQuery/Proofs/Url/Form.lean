import AnalyticsQuery.Proofs.Text.Utf8
import AnalyticsQuery.Url.Form

/-!
# Parts of a query string that stand for themselves

A part without percent signs and plus signs is read as it is written, whatever
other characters it has.

* `percentDecode_of_not_mem`: bytes without percent signs are not changed.
* `decodePart_of_plain`: a plain part is read as it is written.
-/

namespace AnalyticsQuery
namespace Url

/-- Bytes without percent signs hold no percent coding. -/
theorem percentDecode_of_not_mem
    {bytes : List UInt8} (h : 0x25 ∉ bytes) :
    percentDecode bytes = bytes := by
  fun_induction percentDecode bytes with
  | case1 b c rest high low hhigh hlow ih =>
      simp at h
  | case2 b c rest hdigits ih =>
      simp at h
  | case3 a b c rest ha ih =>
      rw [ih (List.not_mem_of_not_mem_cons h)]
  | case4 bytes hshort => rfl

/-- A percent sign is among the bytes of a character only if it is that character. -/
theorem percent_not_mem_pointBytes
    {c : Char} (h : c ≠ '%') :
    0x25 ∉ Text.pointBytes c.toNat := by
  have hvalid : c.toNat < 0xD800 ∨ 0xDFFF < c.toNat ∧ c.toNat < 0x110000 := c.valid
  have hpoint : c.toNat ≠ 0x25 := by
    intro heq
    exact h (Char.toNat_inj.mp heq)
  have hbyte : ∀ n : Nat, n < 256 → n ≠ 0x25 → (0x25 : UInt8) ≠ n.toUInt8 := by
    intro n hn hne heq
    have hsame := congrArg UInt8.toNat heq
    rw [Text.toNat_toUInt8 hn] at hsame
    exact hne hsame.symm
  unfold Text.pointBytes
  split
  · simp only [List.mem_singleton]
    exact hbyte _ (by omega) hpoint
  · split
    · simp only [List.mem_cons, List.not_mem_nil, not_or]
      exact ⟨hbyte _ (by omega) (by omega), hbyte _ (by omega) (by omega), not_false⟩
    · split
      · simp only [List.mem_cons, List.not_mem_nil, not_or]
        exact ⟨hbyte _ (by omega) (by omega), hbyte _ (by omega) (by omega),
          hbyte _ (by omega) (by omega), not_false⟩
      · simp only [List.mem_cons, List.not_mem_nil, not_or]
        exact ⟨hbyte _ (by omega) (by omega), hbyte _ (by omega) (by omega),
          hbyte _ (by omega) (by omega), hbyte _ (by omega) (by omega), not_false⟩

/-- A text without percent signs holds no percent coding. -/
theorem percentDecode_utf8Bytes {cs : List Char} (h : '%' ∉ cs) :
    percentDecode (Text.utf8Bytes cs) = Text.utf8Bytes cs := by
  apply percentDecode_of_not_mem
  intro hmem
  obtain ⟨c, hc, hbyte⟩ := List.mem_flatMap.mp hmem
  refine percent_not_mem_pointBytes ?_ hbyte
  rintro rfl
  exact h hc

namespace Form

/-- Whether the characters of a part all stand for themselves. -/
def isPlain (cs : List Char) : Bool :=
  cs.all fun c => c != '%' && c != '+'

/-- A plain part is read as it is written. -/
theorem decodePart_of_plain
    {cs : List Char} (h : isPlain cs = true) :
    decodePart cs = String.ofList cs := by
  have hplain : ∀ c ∈ cs, c ≠ '%' ∧ c ≠ '+' := by
    simpa [isPlain] using h
  have hspaced : (cs.map fun c => if c = '+' then ' ' else c) = cs := by
    rw [List.map_congr_left fun c hc => if_neg (hplain c hc).2, List.map_id']
  have hpercent : '%' ∉ cs := fun hmem => (hplain '%' hmem).1 rfl
  rw [decodePart, hspaced, percentDecode_utf8Bytes hpercent, Text.decodeLossy_utf8Bytes]

end Form
end Url
end AnalyticsQuery
