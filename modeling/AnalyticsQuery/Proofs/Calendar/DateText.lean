import AnalyticsQuery.Calendar
import AnalyticsQuery.Proofs.Decimal.Literal

/-!
# The texts of dates

A date is written as its year, month and day with hyphens between them.  Blanks
may stand before each of the three numbers.  The year has at most four digits, or
a sign and then any number of them; month and day have at most two.  And the
calendar must have the day.

This module writes these rules down without saying how a text is read, and shows
that the reader follows them: it takes the whole text of a date, and no other.

* `isDay_iff`: the days of the calendar.
* `number?_append`, `exists_of_number?`: numbers, written and read.
* `year?_append`, `exists_of_year?`: years with blanks before them, and likewise
  `field?_append`, `exists_of_field?` for months and days.
* `date?_append`, `exists_of_date?`: dates, whatever follows them.
* `isDate_iff`: a whole text is taken for a date exactly when it is one.
-/

namespace AnalyticsQuery
namespace Calendar

/-! ## Days -/

/-- A day of the proleptic Gregorian calendar, in the years that the calendar covers. -/
structure IsCalendarDay (year : Int) (month day : Nat) : Prop where
  first_year : -262143 ≤ year
  last_year : year ≤ 262142
  month_pos : 1 ≤ month
  month_le : month ≤ 12
  day_pos : 1 ≤ day
  day_le : day ≤ 31
  short_month : month = 4 ∨ month = 6 ∨ month = 9 ∨ month = 11 → day ≤ 30
  february : month = 2 → day ≤ 29
  leap_day : month = 2 → day = 29 → 4 ∣ year ∧ (100 ∣ year → 400 ∣ year)

theorem isLeap_iff {year : Int} : isLeap year = true ↔ 4 ∣ year ∧ (100 ∣ year → 400 ∣ year) := by
  simp only [isLeap, Bool.and_eq_true, Bool.or_eq_true, decide_eq_true_eq, bne_iff_ne]
  omega

theorem le_daysInMonth_iff {year : Int} {month day : Nat} (hday : 1 ≤ day) :
    day ≤ daysInMonth year month ↔
      1 ≤ month ∧ month ≤ 12 ∧ day ≤ 31 ∧
        (month = 4 ∨ month = 6 ∨ month = 9 ∨ month = 11 → day ≤ 30) ∧ (month = 2 → day ≤ 29) ∧
        (month = 2 → day = 29 → isLeap year = true) := by
  unfold daysInMonth
  split <;> grind

theorem isDay_iff {year : Int} {month day : Nat} :
    isDay year month day = true ↔ IsCalendarDay year month day := by
  simp only [isDay, Bool.and_eq_true, decide_eq_true_eq]
  constructor
  · rintro ⟨⟨⟨hfirst, hlast⟩, hpos⟩, hday⟩
    obtain ⟨hmonth, hmonth', hle, hshort, hfebruary, hleap⟩ := (le_daysInMonth_iff hpos).mp hday
    exact ⟨hfirst, hlast, hmonth, hmonth', hpos, hle, hshort, hfebruary,
      fun hmonth hday => isLeap_iff.mp (hleap hmonth hday)⟩
  · intro h
    refine ⟨⟨⟨h.first_year, h.last_year⟩, h.day_pos⟩, (le_daysInMonth_iff h.day_pos).mpr ?_⟩
    exact ⟨h.month_pos, h.month_le, h.day_le, h.short_month, h.february,
      fun hmonth hday => isLeap_iff.mpr (h.leap_day hmonth hday)⟩

/-! ## Written dates -/

/-- A text of blanks only. -/
def Blanks (cs : List Char) : Prop :=
  ∀ c ∈ cs, Text.isBlankChar c = true

/-- A number in decimal digits, with any zeros before it. -/
structure SpellsNumber (digits : List Char) (n : Nat) : Prop where
  isDigits : Decimal.IsDigits digits
  value : Decimal.ofDigits digits = n

/-- A year in at most four digits, or with a sign. -/
inductive SpellsYear : List Char → Int → Prop
  | plain {digits : List Char} {n : Nat} :
      SpellsNumber digits n → digits.length ≤ 4 → SpellsYear digits n
  | plus {digits : List Char} {n : Nat} :
      SpellsNumber digits n → SpellsYear ('+' :: digits) n
  | minus {digits : List Char} {n : Nat} :
      SpellsNumber digits n → SpellsYear ('-' :: digits) (-n)

/-- A month or a day in at most two digits. -/
structure SpellsField (digits : List Char) (n : Nat) : Prop where
  number : SpellsNumber digits n
  length_le : digits.length ≤ 2

/-- A year, a month and a day, with blanks before each and hyphens between them. -/
inductive SpellsDate : List Char → Int → Nat → Nat → Prop
  | parts {blanks₁ blanks₂ blanks₃ yearText monthText dayText : List Char}
      {year : Int} {month day : Nat} :
      Blanks blanks₁ → SpellsYear yearText year →
      Blanks blanks₂ → SpellsField monthText month →
      Blanks blanks₃ → SpellsField dayText day →
      SpellsDate
        (blanks₁ ++ yearText ++ '-' :: (blanks₂ ++ monthText ++ '-' :: (blanks₃ ++ dayText)))
        year month day

/-- A text that spells a day of the calendar. -/
def IsDateText (cs : List Char) : Prop :=
  ∃ year month day, SpellsDate cs year month day ∧ IsCalendarDay year month day

/-! ## Numbers and blanks -/

/-- A text that begins with no digit. -/
def NoDigitHead (cs : List Char) : Prop :=
  ∀ c, cs.head? = some c → c.isDigit = false

variable {cs rest blanks digits : List Char} {n most : Nat}

theorem takeWhile_of_noDigitHead (h : NoDigitHead cs) : cs.takeWhile Char.isDigit = [] := by
  cases cs with
  | nil => rfl
  | cons c cs => simp [h c rfl]

theorem noDigitHead_take (h : NoDigitHead cs) (k : Nat) : NoDigitHead (cs.take k) := by
  intro c hc
  cases k with
  | zero => cases hc
  | succ k =>
      cases cs with
      | nil => cases hc
      | cons d cs => exact h c hc

theorem noDigitHead_nil : NoDigitHead [] := by
  rintro c ⟨⟩

theorem noDigitHead_hyphen : NoDigitHead ('-' :: cs) := by
  rintro c ⟨⟩
  rfl

/-- The digits of a number are read as that number, if no more digits follow. -/
theorem number?_append
    (h : SpellsNumber digits n) (hlength : digits.length ≤ most) (hrest : NoDigitHead rest) :
    number? most (digits ++ rest) = some (n, rest) := by
  obtain ⟨⟨hne, hdigit⟩, hvalue⟩ := h
  have hdigits : ((digits ++ rest).take most).takeWhile Char.isDigit = digits := by
    rw [List.take_append, List.take_of_length_le hlength,
      List.takeWhile_append_of_pos hdigit,
      takeWhile_of_noDigitHead (noDigitHead_take hrest _), List.append_nil]
  simp only [number?, hdigits, List.isEmpty_eq_false_iff.mpr hne, Bool.false_eq_true, if_false,
    hvalue, List.drop_left]

theorem exists_of_number? (h : number? most cs = some (n, rest)) :
    ∃ digits, cs = digits ++ rest ∧ SpellsNumber digits n ∧ digits.length ≤ most := by
  simp only [number?, Option.ite_none_left_eq_some, Option.some.injEq, Prod.mk.injEq] at h
  obtain ⟨hne, hvalue, rfl⟩ := h
  have hprefix : (cs.take most).takeWhile Char.isDigit <+: cs :=
    (List.takeWhile_prefix _).trans (List.take_prefix most cs)
  have hlength : ((cs.take most).takeWhile Char.isDigit).length ≤ most :=
    Nat.le_trans (List.takeWhile_prefix _).length_le (List.length_take_le most cs)
  have hdigits : Decimal.IsDigits ((cs.take most).takeWhile Char.isDigit) :=
    ⟨by simpa using hne, Decimal.isDigit_of_mem_takeWhile⟩
  exact ⟨_, (List.prefix_iff_eq_append.mp hprefix).symm, ⟨hdigits, hvalue⟩, hlength⟩

theorem exists_of_skipBlanks (cs : List Char) :
    ∃ blanks, cs = blanks ++ skipBlanks cs ∧ Blanks blanks :=
  ⟨cs.takeWhile Text.isBlankChar, List.takeWhile_append_dropWhile.symm,
    fun _ hc => List.mem_takeWhile_imp hc⟩

theorem skipBlanks_append_cons
    (hblanks : Blanks blanks) {c : Char} (hc : Text.isBlankChar c = false) :
    skipBlanks (blanks ++ c :: rest) = c :: rest := by
  rw [skipBlanks, List.dropWhile_append_of_pos hblanks, List.dropWhile_cons_of_neg]
  rw [hc]
  exact Bool.false_ne_true

/-- Blanks before digits are skipped, and the digits are not. -/
theorem skipBlanks_append_digits (hblanks : Blanks blanks) (h : Decimal.IsDigits digits) :
    skipBlanks (blanks ++ (digits ++ rest)) = digits ++ rest := by
  obtain ⟨hne, hdigit⟩ := h
  cases digits with
  | nil => exact absurd rfl hne
  | cons c digits =>
      have hc : c.isDigit = true := hdigit c List.mem_cons_self
      exact skipBlanks_append_cons hblanks (Text.isBlankChar_of_isDigit hc)

/-! ## Years, months and days -/

theorem year?_append
    (hblanks : Blanks blanks) {yearText : List Char} {year : Int} (h : SpellsYear yearText year)
    (hrest : NoDigitHead rest) :
    year? (blanks ++ (yearText ++ rest)) = some (year, rest) := by
  cases h with
  | plain hnumber hlength =>
      rw [year?, skipBlanks_append_digits hblanks hnumber.isDigits]
      -- Digits do not begin with a sign.
      have hsign : ∀ c after, yearText ++ rest = c :: after → c.isDigit = true := by
        intro c after heq
        obtain ⟨⟨hne, hdigit⟩, -⟩ := hnumber
        cases yearText with
        | nil => exact absurd rfl hne
        | cons d digits =>
            cases heq
            exact hdigit _ List.mem_cons_self
      split
      · rename_i after heq
        cases hsign _ _ heq
      · rename_i after heq
        cases hsign _ _ heq
      · rw [number?_append hnumber hlength hrest]
        rfl
  | @plus digits n hnumber =>
      have hlength : digits.length ≤ (digits ++ rest).length := by simp
      rw [year?, List.cons_append, skipBlanks_append_cons hblanks (by decide)]
      simp only [number?_append hnumber hlength hrest, Option.map_some]
  | @minus digits n hnumber =>
      have hlength : digits.length ≤ (digits ++ rest).length := by simp
      rw [year?, List.cons_append, skipBlanks_append_cons hblanks (by decide)]
      simp only [number?_append hnumber hlength hrest, Option.map_some]

theorem exists_of_year? {year : Int} (h : year? cs = some (year, rest)) :
    ∃ blanks yearText, cs = blanks ++ (yearText ++ rest) ∧ Blanks blanks ∧
      SpellsYear yearText year := by
  obtain ⟨blanks, hcs, hblanks⟩ := exists_of_skipBlanks cs
  unfold year? at h
  split at h
  · rename_i after hafter
    obtain ⟨⟨n, text⟩, hread, heq⟩ := Option.map_eq_some_iff.mp h
    cases heq
    obtain ⟨digits, rfl, hnumber, -⟩ := exists_of_number? hread
    exact ⟨blanks, '-' :: digits, by rw [hcs, hafter]; rfl, hblanks, .minus hnumber⟩
  · rename_i after hafter
    obtain ⟨⟨n, text⟩, hread, heq⟩ := Option.map_eq_some_iff.mp h
    cases heq
    obtain ⟨digits, rfl, hnumber, -⟩ := exists_of_number? hread
    exact ⟨blanks, '+' :: digits, by rw [hcs, hafter]; rfl, hblanks, .plus hnumber⟩
  · obtain ⟨⟨n, text⟩, hread, heq⟩ := Option.map_eq_some_iff.mp h
    cases heq
    obtain ⟨digits, hdigits, hnumber, hlength⟩ := exists_of_number? hread
    exact ⟨blanks, digits, by rw [← hdigits]; exact hcs, hblanks, .plain hnumber hlength⟩

theorem field?_append
    (hblanks : Blanks blanks) (h : SpellsField digits n) (hrest : NoDigitHead rest) :
    field? (blanks ++ (digits ++ rest)) = some (n, rest) := by
  rw [field?, skipBlanks_append_digits hblanks h.number.isDigits]
  exact number?_append h.number h.length_le hrest

theorem exists_of_field? (h : field? cs = some (n, rest)) :
    ∃ blanks digits, cs = blanks ++ (digits ++ rest) ∧ Blanks blanks ∧ SpellsField digits n := by
  obtain ⟨blanks, hcs, hblanks⟩ := exists_of_skipBlanks cs
  obtain ⟨digits, hdigits, hnumber, hlength⟩ := exists_of_number? h
  exact ⟨blanks, digits, by rw [← hdigits]; exact hcs, hblanks, hnumber, hlength⟩

/-! ## Dates -/

theorem literal?_eq_some_iff {c : Char} : literal? c cs = some rest ↔ cs = c :: rest := by
  cases cs with
  | nil => simp [literal?]
  | cons d cs => simp [literal?]

/-- A written day of the calendar is read, if no more digits follow. -/
theorem date?_append
    {year : Int} {month day : Nat} (h : SpellsDate cs year month day)
    (hday : IsCalendarDay year month day) (hrest : NoDigitHead rest) :
    ∃ date, date? (cs ++ rest) = some (date, rest) := by
  obtain ⟨hblanks₁, hyear, hblanks₂, hmonth, hblanks₃, hdayText⟩ := h
  refine ⟨⟨year, month, day, isDay_iff.mpr hday⟩, ?_⟩
  have hhyphen : ∀ after : List Char, literal? '-' ('-' :: after) = some after :=
    fun _ => literal?_eq_some_iff.mpr rfl
  simp only [List.append_assoc, List.cons_append, date?,
    year?_append hblanks₁ hyear noDigitHead_hyphen,
    field?_append hblanks₂ hmonth noDigitHead_hyphen, field?_append hblanks₃ hdayText hrest,
    hhyphen, Date.of?, isDay_iff.mpr hday, dif_pos, Option.bind_eq_bind, Option.bind_some,
    Option.pure_def]

theorem exists_of_date? {date : Date} (h : date? cs = some (date, rest)) :
    ∃ text, cs = text ++ rest ∧ SpellsDate text date.year date.month date.day := by
  simp only [date?, Option.bind_eq_bind, Option.bind_eq_some_iff, Prod.exists, Option.pure_def,
    Option.some.injEq, Prod.mk.injEq, literal?_eq_some_iff] at h
  obtain ⟨year, _, hyearRead, _, rfl, month, _, hmonthRead, _, rfl, day, _, hdayRead, _, hdate, rfl,
    rfl⟩ := h
  obtain ⟨blanks₁, yearText, rfl, hblanks₁, hyear⟩ := exists_of_year? hyearRead
  obtain ⟨blanks₂, monthText, rfl, hblanks₂, hmonth⟩ := exists_of_field? hmonthRead
  obtain ⟨blanks₃, dayText, rfl, hblanks₃, hday⟩ := exists_of_field? hdayRead
  unfold Date.of? at hdate
  split at hdate
  · cases hdate
    exact ⟨_, by simp, .parts hblanks₁ hyear hblanks₂ hmonth hblanks₃ hday⟩
  · cases hdate

/-- A whole text is taken for a date exactly when it spells a day of the calendar. -/
theorem isDate_iff : isDate cs = true ↔ IsDateText cs := by
  constructor
  · intro h
    unfold isDate at h
    split at h
    · rename_i date hread
      obtain ⟨text, rfl, hspells⟩ := exists_of_date? hread
      rw [List.append_nil]
      exact ⟨_, _, _, hspells, isDay_iff.mp date.exists_day⟩
    · cases h
  · rintro ⟨year, month, day, hspells, hday⟩
    obtain ⟨date, hread⟩ := date?_append hspells hday noDigitHead_nil
    rw [List.append_nil] at hread
    rw [isDate, hread]

instance : DecidablePred IsDateText := fun _ => decidable_of_iff _ isDate_iff

example : IsDateText " +02024- 2-29".toList := by decide +kernel

example : ¬ IsDateText "1900-2-29".toList := by decide +kernel

theorem not_mem_of_spellsNumber
    (h : SpellsNumber digits n) {c : Char} (hdigit : c.isDigit = false) : c ∉ digits := by
  intro hc
  rw [h.isDigits.2 c hc] at hdigit
  cases hdigit

theorem not_mem_of_spellsYear
    {year : Int} (h : SpellsYear cs year) {c : Char} (hdigit : c.isDigit = false)
    (hsign : c ≠ '+' ∧ c ≠ '-') : c ∉ cs := by
  cases h with
  | plain hnumber => exact not_mem_of_spellsNumber hnumber hdigit
  | plus hnumber => simp [hsign, not_mem_of_spellsNumber hnumber hdigit]
  | minus hnumber => simp [hsign, not_mem_of_spellsNumber hnumber hdigit]

/-- A date is written with blanks, signs, hyphens and digits only. -/
theorem not_mem_of_spellsDate
    {year : Int} {month day : Nat} (h : SpellsDate cs year month day) {c : Char}
    (hblank : Text.isBlankChar c = false) (hdigit : c.isDigit = false)
    (hsign : c ≠ '+' ∧ c ≠ '-') : c ∉ cs := by
  have hblanks : ∀ blanks, Blanks blanks → c ∉ blanks := by
    intro blanks h hc
    rw [h c hc] at hblank
    cases hblank
  obtain ⟨hblanks₁, hyear, hblanks₂, hmonth, hblanks₃, hday⟩ := h
  simp [hblanks _ hblanks₁, hblanks _ hblanks₂, hblanks _ hblanks₃, hsign,
    not_mem_of_spellsYear hyear hdigit hsign, not_mem_of_spellsNumber hmonth.number hdigit,
    not_mem_of_spellsNumber hday.number hdigit]

end Calendar
end AnalyticsQuery
