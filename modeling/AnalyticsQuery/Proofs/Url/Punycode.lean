import AnalyticsQuery.Url.Punycode
import Mathlib.Data.List.Basic

/-!
# The characters of Punycode

A code is made of the ASCII characters of the text, a hyphen, and digits.  In
the same way nothing can be read but ASCII characters that are in the text that
is read, hyphens and digits, so that a code holds no sign that its text does not
hold.

* `mem_encode`: the characters of the code of a text.
* `mem_of_decode?`: the characters of a code that is read as a text.
-/

namespace AnalyticsQuery
namespace Url
namespace Punycode

/-- A digit of base 36 in small letters. -/
def IsDigit (c : Char) : Prop :=
  ∃ d < 36, c = digitChar d

theorem threshold_le (place bias : Nat) : threshold place bias ≤ 26 := by
  unfold threshold
  split
  · omega
  · split <;> omega

/-! ## Writing -/

theorem isDigit_of_mem_distanceDigits (bias place q : Nat) :
    ∀ c ∈ distanceDigits bias place q, IsDigit c := by
  induction q using Nat.strongRecOn generalizing place with
  | ind q ih =>
      have hpos := threshold_pos place bias
      have hle := threshold_le place bias
      rw [distanceDigits]
      split
      · rename_i hlast
        intro c hc
        exact ⟨q, by omega, List.mem_singleton.mp hc⟩
      · have hrest : (q - threshold place bias) / (36 - threshold place bias) < q := by
          calc (q - threshold place bias) / (36 - threshold place bias)
              ≤ q - threshold place bias := Nat.div_le_self _ _
            _ < q := by omega
        have hdigit : (q - threshold place bias) % (36 - threshold place bias) <
            36 - threshold place bias := Nat.mod_lt _ (by omega)
        intro c hc
        rcases List.mem_cons.mp hc with rfl | hc
        · exact ⟨_, by omega, rfl⟩
        · exact ih _ hrest _ c hc

/-- A character that is written adds digits to the output. -/
theorem mem_output_step
    {basic m : Nat} {w : Writer} {c d : Char} (h : d ∈ (w.step basic m c).output) :
    d ∈ w.output ∨ IsDigit d := by
  unfold Writer.step at h
  split at h
  · exact Or.inl h
  · split at h
    · rcases List.mem_append.mp h with h | h
      · exact Or.inl h
      · exact Or.inr (isDigit_of_mem_distanceDigits _ _ _ d h)
    · exact Or.inl h

theorem mem_output_foldl
    {basic m : Nat} {text : List Char} {w : Writer} {d : Char}
    (h : d ∈ (text.foldl (Writer.step basic m) w).output) :
    d ∈ w.output ∨ IsDigit d := by
  induction text generalizing w with
  | nil => exact Or.inl h
  | cons c rest ih =>
      rcases ih h with h | h
      · exact mem_output_step h
      · exact Or.inr h

theorem mem_output_writeAll
    {text : List Char} {basic n : Nat} {points : List Nat} {w : Writer} {d : Char}
    (h : d ∈ (writeAll text basic points n w).output) :
    d ∈ w.output ∨ IsDigit d := by
  induction points generalizing n w with
  | nil => exact Or.inl h
  | cons m rest ih =>
      rcases ih h with h | h
      · exact @mem_output_foldl basic m text
          { w with delta := w.delta + (m - n) * (w.written + 1) } d h
      · exact Or.inr h

/-- A code is made of the ASCII characters of the text, a hyphen and digits. -/
theorem mem_encode {text : List Char} {c : Char} (h : c ∈ encode text) :
    (c ∈ text ∧ c.toNat < 128) ∨ c = '-' ∨ IsDigit c := by
  unfold encode at h
  rcases List.mem_append.mp h with h | h
  · rcases List.mem_append.mp h with h | h
    · simp only [List.mem_filter, decide_eq_true_eq] at h
      exact Or.inl h
    · split at h
      · cases h
      · exact Or.inr (Or.inl (List.mem_singleton.mp h))
  · rcases mem_output_writeAll h with h | h
    · cases h
    · exact Or.inr (Or.inr h)

/-! ## Reading -/

/-- A character is put in between others, which all stay. -/
theorem mem_output_insert?
    {r next : Reader} (h : r.insert? = some next) {c : Char} (hc : c ∈ r.output) :
    c ∈ next.output := by
  obtain ⟨hpoint, hnext⟩ := Option.dite_none_right_eq_some.mp h
  cases hnext
  rw [← List.take_append_drop ((r.index + r.distance) % (r.output.length + 1)) r.output] at hc
  rcases List.mem_append.mp hc with hc | hc
  · exact List.mem_append_left _ hc
  · exact List.mem_append_right _ (List.mem_cons_of_mem _ hc)

/-- What is read has all characters that were there before, and it is read from digits. -/
theorem of_readDigits
    {r : Reader} {cs text : List Char} (h : readDigits r cs = some text) :
    (∀ c ∈ r.output, c ∈ text) ∧ ∀ c ∈ cs, (digitValue? c).isSome = true := by
  induction cs generalizing r with
  | nil =>
      rw [readDigits] at h
      split at h
      · cases h
        exact ⟨fun c hc => hc, by simp⟩
      · cases h
  | cons c rest ih =>
      rw [readDigits] at h
      split at h
      · cases h
      · rename_i d hdigit
        have hc : (digitValue? c).isSome = true := by
          rw [hdigit]
          rfl
        have hcons : (∀ x ∈ rest, (digitValue? x).isSome = true) →
            ∀ x ∈ c :: rest, (digitValue? x).isSome = true := by
          intro hrest
          exact List.forall_mem_cons.mpr ⟨hc, hrest⟩
        simp only at h
        split at h
        · cases h
        · split at h
          · split at h
            · rename_i next hinsert
              obtain ⟨hout, hrest⟩ := ih h
              exact ⟨fun x hx => hout x (mem_output_insert? hinsert hx), hcons hrest⟩
            · cases h
          · split at h
            · cases h
            · obtain ⟨hout, hrest⟩ := ih h
              exact ⟨hout, hcons hrest⟩

/-- What stands behind the last hyphen is the end of a code. -/
theorem exists_append_tail (code : List Char) :
    ∃ front, code = front ++ (code.reverse.takeWhile (· != '-')).reverse ∧
      (front = [] ∨ front.getLast? = some '-') := by
  refine ⟨(code.reverse.dropWhile (· != '-')).reverse, ?_, ?_⟩
  · rw [← List.reverse_append, List.takeWhile_append_dropWhile, List.reverse_reverse]
  · cases hrest : code.reverse.dropWhile (· != '-') with
    | nil => exact Or.inl rfl
    | cons c rest =>
        have hhead := List.head?_dropWhile_not (· != '-') code.reverse
        rw [hrest] at hhead
        have hhyphen : c = '-' := bne_eq_false_iff_eq.mp hhead
        refine Or.inr ?_
        rw [hhyphen, List.reverse_cons, List.getLast?_concat]

/-- A code is read from ASCII characters of the text, hyphens and digits in either case. -/
theorem mem_of_decode?
    {code text : List Char} (h : decode? code = some text) {c : Char} (hc : c ∈ code) :
    (c ∈ text ∧ c.toNat < 128) ∨ c = '-' ∨ (digitValue? c).isSome = true := by
  obtain ⟨front, hcode, hfront⟩ := exists_append_tail code
  simp only [decode?] at h
  generalize (code.reverse.takeWhile (· != '-')).reverse = tail at h hcode
  subst hcode
  rw [List.length_append, Nat.add_sub_cancel, List.take_left] at h
  split at h
  · rename_i hascii
    obtain ⟨hout, hdigits⟩ := of_readDigits h
    rcases List.mem_append.mp hc with hc | hc
    · rcases hfront with rfl | hlast
      · cases hc
      · obtain ⟨basic, rfl⟩ := List.getLast?_eq_some_iff.mp hlast
        rw [List.dropLast_concat] at hascii hout
        rcases List.mem_append.mp hc with hc | hc
        · have hlt := List.all_eq_true.mp hascii c hc
          exact Or.inl ⟨hout c hc, of_decide_eq_true hlt⟩
        · exact Or.inr (Or.inl (List.mem_singleton.mp hc))
    · exact Or.inr (Or.inr (hdigits c hc))
  · cases h

end Punycode
end Url
end AnalyticsQuery
