import AnalyticsQuery.Decimal.Layout
import AnalyticsQuery.Decimal.Reader
import AnalyticsQuery.Json.Basic
import Mathlib.Data.List.TakeWhile

/-!
# Number literals

A number literal has an optional sign, digits with an optional point, and an
optional exponent with an optional sign of its own.  Nothing else belongs to it:
no blank, no separator of thousands, no word such as the name of infinity.

* `isLiteral_of_readBinary64?`: what is read as a number is a literal.
* `IsLiteral.isNumeralChar`: the characters that a literal consists of.
* `Number.isLiteral_chars`: every number is written as a literal, integers and
  shortest decimals in both notations alike.
-/

namespace AnalyticsQuery
namespace Decimal

/-! ## The grammar -/

/-- One or more decimal digits. -/
def IsDigits (cs : List Char) : Prop :=
  cs ≠ [] ∧ ∀ c ∈ cs, c.isDigit = true

def IsSign (cs : List Char) : Prop :=
  cs = [] ∨ cs = ['-'] ∨ cs = ['+']

/-- Digits with a point before, among or behind them, or without one. -/
inductive IsMantissa : List Char → Prop
  | whole {digits : List Char} : IsDigits digits → IsMantissa digits
  | pointed (whole decimals : List Char) :
      IsDigits (whole ++ decimals) → IsMantissa (whole ++ '.' :: decimals)

inductive IsExponent : List Char → Prop
  | absent : IsExponent []
  | present (letter : Char) (sign digits : List Char) :
      letter = 'e' ∨ letter = 'E' → IsSign sign → IsDigits digits →
        IsExponent (letter :: (sign ++ digits))

/-- A number literal with nothing around it. -/
inductive IsLiteral : List Char → Prop
  | of {sign mantissa exponent : List Char} :
      IsSign sign → IsMantissa mantissa → IsExponent exponent →
        IsLiteral (sign ++ (mantissa ++ exponent))

/-! ## What is read as a number -/

theorem exists_splitSign (cs : List Char) :
    ∃ sign, IsSign sign ∧ cs = sign ++ (splitSign cs).2 := by
  unfold splitSign
  split
  · exact ⟨['-'], Or.inr (Or.inl rfl), rfl⟩
  · exact ⟨['+'], Or.inr (Or.inr rfl), rfl⟩
  · exact ⟨[], Or.inl rfl, rfl⟩

theorem isDigits_of_guard {cs : List Char} (h : ¬ (cs.isEmpty || !cs.all Char.isDigit) = true) :
    IsDigits cs := by
  simp only [Bool.or_eq_true, List.isEmpty_iff, Bool.not_eq_true', Bool.not_eq_false,
    not_or, List.all_eq_true] at h
  exact h

theorem isExponent_of_readExponent? {cs : List Char} {e : Int} (h : readExponent? cs = some e) :
    IsExponent cs := by
  cases cs with
  | nil => exact IsExponent.absent
  | cons letter rest =>
      obtain ⟨sign, hsign, hrest⟩ := exists_splitSign rest
      simp only [readExponent?] at h
      split at h
      · rename_i hletter
        split at h
        · cases h
        · rename_i hdigits
          rw [hrest]
          exact IsExponent.present letter sign _ hletter hsign (isDigits_of_guard hdigits)
      · cases h

theorem isDigit_of_mem_takeWhile {cs : List Char} :
    ∀ c ∈ cs.takeWhile Char.isDigit, c.isDigit = true :=
  fun _ hc => List.mem_takeWhile_imp hc

/-- Digits and what follows them are a mantissa in front of what follows the decimals. -/
theorem exists_splitDecimals
    {digits : List Char} (hdigits : ∀ c ∈ digits, c.isDigit = true) (tail : List Char)
    (hsome : ¬ (digits.isEmpty && (splitDecimals tail).1.isEmpty) = true) :
    ∃ mantissa, IsMantissa mantissa ∧ digits ++ tail = mantissa ++ (splitDecimals tail).2 := by
  unfold splitDecimals at hsome ⊢
  split at hsome
  · rename_i rest
    refine ⟨digits ++ '.' :: rest.takeWhile Char.isDigit,
      IsMantissa.pointed _ _ ⟨by simpa using hsome, ?_⟩, ?_⟩
    · intro c hc
      rcases List.mem_append.mp hc with hc | hc
      · exact hdigits c hc
      · exact isDigit_of_mem_takeWhile c hc
    · simp [List.takeWhile_append_dropWhile]
  · exact ⟨digits, IsMantissa.whole ⟨by simpa using hsome, hdigits⟩, rfl⟩

/-- What is read as a number is a literal. -/
theorem isLiteral_of_readBinary64?
    {cs : List Char} {x : Binary64} (h : readBinary64? cs = some x) : IsLiteral cs := by
  obtain ⟨sign, hsign, hrest⟩ := exists_splitSign cs
  have hdigits :
      (splitSign cs).2.takeWhile Char.isDigit ++ (splitSign cs).2.dropWhile Char.isDigit =
        (splitSign cs).2 :=
    List.takeWhile_append_dropWhile
  simp only [readBinary64?] at h
  split at h
  · cases h
  · rename_i hsome
    obtain ⟨mantissa, hmantissa, hparts⟩ :=
      exists_splitDecimals isDigit_of_mem_takeWhile _ hsome
    split at h
    · cases h
    · rename_i e hexponent
      rw [hrest, ← hdigits, hparts]
      exact IsLiteral.of hsign hmantissa (isExponent_of_readExponent? hexponent)

/-! ## The characters of a literal -/

/-- The characters that a literal consists of. -/
def isNumeralChar (c : Char) : Bool :=
  c.isDigit || c ∈ ['-', '+', '.', 'e', 'E']

theorem IsSign.isNumeralChar {cs : List Char} (h : IsSign cs) :
    ∀ c ∈ cs, isNumeralChar c = true := by
  rcases h with rfl | rfl | rfl <;> simp [Decimal.isNumeralChar]

theorem IsDigits.isNumeralChar {cs : List Char} (h : IsDigits cs) :
    ∀ c ∈ cs, Decimal.isNumeralChar c = true := by
  intro c hc
  simp [Decimal.isNumeralChar, h.2 c hc]

theorem IsMantissa.isNumeralChar {cs : List Char} (h : IsMantissa cs) :
    ∀ c ∈ cs, Decimal.isNumeralChar c = true := by
  cases h with
  | whole hdigits => exact hdigits.isNumeralChar
  | pointed whole decimals hdigits =>
      intro c hc
      rcases List.mem_append.mp hc with hc | hc
      · exact hdigits.isNumeralChar c (List.mem_append_left _ hc)
      · rcases List.mem_cons.mp hc with rfl | hc
        · decide
        · exact hdigits.isNumeralChar c (List.mem_append_right _ hc)

theorem IsExponent.isNumeralChar {cs : List Char} (h : IsExponent cs) :
    ∀ c ∈ cs, Decimal.isNumeralChar c = true := by
  cases h with
  | absent => simp
  | present letter sign digits hletter hsign hdigits =>
      intro c hc
      rcases List.mem_cons.mp hc with rfl | hc
      · rcases hletter with rfl | rfl <;> decide
      · rcases List.mem_append.mp hc with hc | hc
        · exact hsign.isNumeralChar c hc
        · exact hdigits.isNumeralChar c hc

theorem IsLiteral.isNumeralChar {cs : List Char} (h : IsLiteral cs) :
    ∀ c ∈ cs, Decimal.isNumeralChar c = true := by
  cases h with
  | of hsign hmantissa hexponent =>
      simp only [List.mem_append]
      rintro c (hc | hc | hc)
      · exact hsign.isNumeralChar c hc
      · exact hmantissa.isNumeralChar c hc
      · exact hexponent.isNumeralChar c hc

/-! ## How numbers are written -/

theorem isDigits_toDigits (n : Nat) : IsDigits (Nat.toDigits 10 n) :=
  ⟨Nat.toDigits_ne_nil, fun _ hc => Nat.isDigit_of_mem_toDigits (by decide) (by decide) hc⟩

theorem isLiteral_intChars (n : Int) : IsLiteral (intChars n) := by
  have hdigits : IsMantissa (natChars n.natAbs) := IsMantissa.whole (isDigits_toDigits n.natAbs)
  unfold intChars
  split
  · simpa using IsLiteral.of (Or.inr (Or.inl rfl)) hdigits IsExponent.absent
  · simpa using IsLiteral.of (Or.inl rfl) hdigits IsExponent.absent

/-- Digits that are all zero stand for zero. -/
theorem ofDigits_eq_zero {digits : List Char} (h : ∀ c ∈ digits, c = '0') :
    ofDigits digits = 0 := by
  unfold ofDigits
  induction digits with
  | nil => rfl
  | cons c rest ih =>
      rw [h c List.mem_cons_self, List.foldl_cons]
      exact ih fun d hd => h d (List.mem_cons_of_mem c hd)

theorem isDigit_of_mem_trimZeros {n : Nat} :
    ∀ c ∈ (trimZeros (Nat.toDigits 10 n)).1, c.isDigit = true := by
  intro c hc
  have hmem : c ∈ Nat.toDigits 10 n :=
    List.mem_reverse.mp ((List.dropWhile_sublist _).subset (List.mem_reverse.mp hc))
  exact (isDigits_toDigits n).2 c hmem

/-- A number that is not zero keeps a digit. -/
theorem trimZeros_ne_nil {n : Nat} (h : n ≠ 0) : (trimZeros (Nat.toDigits 10 n)).1 ≠ [] := by
  have hvalue : ofDigits (Nat.toDigits 10 n) = n := Nat.ofDigitChars_ten_toDigits
  intro hnone
  have hzeros : ∀ c ∈ Nat.toDigits 10 n, c = '0' := by
    simpa [trimZeros, List.dropWhile_eq_nil_iff] using hnone
  exact h (hvalue ▸ ofDigits_eq_zero hzeros)

/-- No point of a decimal grid that reads back is zero. -/
theorem Interval.ne_zero_of_gridPoint?
    {i : Interval} {exponent : Int} {d : Nat} (h : i.gridPoint? exponent = some d) : d ≠ 0 := by
  simp only [gridPoint?] at h
  grind

/-- The digits of a shortest decimal are not zero; where none was found its exponent is. -/
theorem shortest_digits_ne_zero (magnitude : Nat) :
    (shortest magnitude).digits ≠ 0 ∨ (shortest magnitude).exponent = 0 := by
  unfold shortest
  cases hfound :
      (List.range 17).findSome? fun (n : Nat) =>
        ((Interval.of magnitude).gridPoint? (leadingExponent (Interval.of magnitude).value
          (Interval.of magnitude).den - (n : Int))).map fun d =>
            (⟨d, leadingExponent (Interval.of magnitude).value
              (Interval.of magnitude).den - (n : Int)⟩ : Digits) with
  | none => exact Or.inr (by simp only [hfound, Option.getD_none])
  | some found =>
      obtain ⟨n, -, hpoint⟩ := List.exists_of_findSome?_eq_some hfound
      obtain ⟨d, hd, rfl⟩ := Option.map_eq_some_iff.mp hpoint
      have hne := Interval.ne_zero_of_gridPoint? hd
      exact Or.inl (by simpa only [hfound, Option.getD_some] using hne)

theorem isMantissa_positional
    {digits : List Char} (h : ∀ c ∈ digits, c.isDigit = true) (lead : Int) :
    IsMantissa (positional digits lead) := by
  have hzeros : ∀ n, ∀ c ∈ List.replicate n '0', c.isDigit = true := by
    intro n c hc
    rw [List.eq_of_mem_replicate hc]
    rfl
  unfold positional
  by_cases hlead : lead < 0
  · rw [if_pos hlead, List.cons_append, List.cons_append]
    refine IsMantissa.pointed ['0'] _ ⟨by simp, ?_⟩
    simp only [List.mem_append, List.mem_singleton]
    rintro c (rfl | hc | hc)
    · rfl
    · exact hzeros _ c hc
    · exact h c hc
  · rw [if_neg hlead]
    by_cases hshort : digits.length ≤ lead.toNat + 1
    · simp only [if_pos hshort]
      refine IsMantissa.pointed _ _ ⟨by simp, ?_⟩
      simp only [List.mem_append, List.mem_singleton]
      rintro c ((hc | hc) | rfl)
      · exact h c hc
      · exact hzeros _ c hc
      · rfl
    · simp only [if_neg hshort]
      refine IsMantissa.pointed _ _ ⟨?_, ?_⟩
      · rw [List.take_append_drop]
        rintro rfl
        exact hshort (Nat.zero_le _)
      · rw [List.take_append_drop]
        exact h

/-- In scientific notation the first digit stands in front of the point. -/
theorem exists_scientific {digits : List Char} (h : IsDigits digits) (lead : Int) :
    ∃ mantissa exponent, IsMantissa mantissa ∧ IsExponent exponent ∧
      scientific digits lead = mantissa ++ exponent := by
  have hexponent :
      IsExponent ('e' :: (if lead < 0 then '-' else '+') :: Nat.toDigits 10 lead.natAbs) := by
    by_cases hlead : lead < 0
    · rw [if_pos hlead]
      exact IsExponent.present 'e' ['-'] _ (Or.inl rfl) (Or.inr (Or.inl rfl)) (isDigits_toDigits _)
    · rw [if_neg hlead]
      exact IsExponent.present 'e' ['+'] _ (Or.inl rfl) (Or.inr (Or.inr rfl)) (isDigits_toDigits _)
  cases digits with
  | nil => exact absurd rfl h.1
  | cons d rest =>
      cases rest with
      | nil => exact ⟨_, _, IsMantissa.whole h, hexponent, rfl⟩
      | cons e more => exact ⟨_, _, IsMantissa.pointed [d] _ h, hexponent, rfl⟩

/-- The decimal of a magnitude is a mantissa with an exponent. -/
theorem exists_magnitudeChars (magnitude : Nat) :
    ∃ mantissa exponent, IsMantissa mantissa ∧ IsExponent exponent ∧
      magnitudeChars standard magnitude = mantissa ++ exponent := by
  unfold magnitudeChars
  by_cases hzero : magnitude = 0
  · rw [if_pos hzero]
    exact ⟨_, _, IsMantissa.pointed ['0'] ['0'] ⟨by simp, by simp⟩,
      IsExponent.absent, rfl⟩
  · simp only [if_neg hzero]
    split
    · exact ⟨_, _, isMantissa_positional isDigit_of_mem_trimZeros _, IsExponent.absent,
        (List.append_nil _).symm⟩
    · rename_i hlead
      have hdigits : (shortest magnitude).digits ≠ 0 := by
        intro hnone
        -- Without digits there is no exponent either, and zero is not written in this notation.
        rcases shortest_digits_ne_zero magnitude with hdigits | hexponent
        · exact hdigits hnone
        · exact hlead (by rw [hnone, hexponent]; decide)
      exact exists_scientific ⟨trimZeros_ne_nil hdigits, isDigit_of_mem_trimZeros⟩ _

theorem isLiteral_chars (x : Binary64) : IsLiteral (chars x) := by
  obtain ⟨mantissa, exponent, hmantissa, hexponent, hchars⟩ := exists_magnitudeChars x.magnitude
  unfold chars
  rw [hchars]
  cases x.negative with
  | false => exact IsLiteral.of (Or.inl rfl) hmantissa hexponent
  | true => exact IsLiteral.of (Or.inr (Or.inl rfl)) hmantissa hexponent

end Decimal

/-- Every number is written as a literal. -/
theorem Number.isLiteral_chars (n : Number) : Decimal.IsLiteral n.chars := by
  cases n with
  | int value fits => exact Decimal.isLiteral_intChars value
  | float x => exact Decimal.isLiteral_chars x

end AnalyticsQuery
