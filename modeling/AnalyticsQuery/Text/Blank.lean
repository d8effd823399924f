/-!
# Blank text

Blank characters are those of the Unicode property White_Space.  A text is
blank when it holds no other character, and trimming removes the blanks at
both ends of a text and nothing else.
-/

namespace AnalyticsQuery
namespace Text

/-- The code points with the property White_Space. -/
def isBlankPoint (n : Nat) : Bool :=
  (9 ≤ n && n ≤ 13) || n == 0x20 || n == 0x85 || n == 0xA0 || n == 0x1680 ||
    (0x2000 ≤ n && n ≤ 0x200A) || n == 0x2028 || n == 0x2029 || n == 0x202F ||
    n == 0x205F || n == 0x3000

/-- Whether a character is blank. -/
def isBlankChar (c : Char) : Bool :=
  isBlankPoint c.toNat

/-- Remove the leading and the trailing characters that satisfy `p`. -/
def stripWhere (p : Char → Bool) (cs : List Char) : List Char :=
  ((cs.dropWhile p).reverse.dropWhile p).reverse

/-- A text without the blanks at its ends. -/
def trim (s : String) : String :=
  String.ofList (stripWhere isBlankChar s.toList)

/-- Whether a text holds blanks only; the empty text does. -/
def isBlank (s : String) : Bool :=
  s.toList.all isBlankChar

theorem dropWhile_eq_self {p : Char → Bool} {cs : List Char} (h : ∀ c ∈ cs, p c = false) :
    cs.dropWhile p = cs := by
  cases cs with
  | nil => rfl
  | cons c rest => simp [h c List.mem_cons_self]

/-- Nothing is removed from a text without such characters. -/
theorem stripWhere_eq_self {p : Char → Bool} {cs : List Char} (h : ∀ c ∈ cs, p c = false) :
    stripWhere p cs = cs := by
  have hreverse : ∀ c ∈ cs.reverse, p c = false := fun c hc => h c (List.mem_reverse.mp hc)
  rw [stripWhere, dropWhile_eq_self h, dropWhile_eq_self hreverse, List.reverse_reverse]

theorem isBlankChar_of_isDigit {c : Char} (h : c.isDigit = true) : isBlankChar c = false := by
  have hrange : 48 ≤ c.toNat ∧ c.toNat ≤ 57 := by
    simp only [Char.isDigit, Bool.and_eq_true, decide_eq_true_eq] at h
    exact ⟨UInt32.le_iff_toNat_le.mp h.1, UInt32.le_iff_toNat_le.mp h.2⟩
  simp only [isBlankChar, isBlankPoint]
  grind

end Text
end AnalyticsQuery
