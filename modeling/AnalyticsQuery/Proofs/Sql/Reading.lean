import AnalyticsQuery.Proofs.Sql.Lexer
import AnalyticsQuery.Sql.Statement
import Mathlib.Data.List.Forall2

/-!
# The tokens of pieces of query text

Query text is put together from pieces, and the tokens of a piece do not depend
on the text behind it as long as that text begins with a delimiter: a blank, a
parenthesis, a comma or a period.  A piece with this property *reads* as its
tokens; a piece that has it before every text reads *freely*.

* `readToken_quote`, `reads_quote`: a quoted identifier reads as one name, the
  one that was quoted, whatever characters it holds.
* `reads_natText`, `readsFreely_placeholder`: a number and a placeholder read
  as one token each.
* `Reads.append_free`, `reads_intercalate`: pieces with separators between
  them read as the tokens of the pieces with those of the separators between
  them.
-/

namespace AnalyticsQuery
namespace Sql
namespace Lexer

/-- Whether a character ends every word, number and name in front of it. -/
def isDelimiter (c : Char) : Bool :=
  c.isWhitespace || c ∈ ['(', ')', ',', '.']

/-- A text that is empty or begins with a delimiter. -/
def Delimited : List Char → Prop
  | [] => True
  | c :: _ => isDelimiter c = true

/-- A text that is read as the given tokens before every delimited text. -/
def Reads (cs : List Char) (ts : List Token) : Prop :=
  ∀ rest, Delimited rest → lex (cs ++ rest) = (lex rest).map (ts ++ ·)

/-- A text that is read as the given tokens before every text. -/
def ReadsFreely (cs : List Char) (ts : List Token) : Prop :=
  ∀ rest, lex (cs ++ rest) = (lex rest).map (ts ++ ·)

/-- A text that begins with a delimiter and reads freely. -/
structure Separates (cs : List Char) (ts : List Token) : Prop where
  delimited : ∀ rest, Delimited (cs ++ rest)
  free : ReadsFreely cs ts

theorem isWordChar_of_isDelimiter
    {c : Char} (h : isDelimiter c = true) :
    isWordChar c = false := by
  simp only [isDelimiter, Char.isWhitespace, Bool.or_eq_true, decide_eq_true_eq,
    List.mem_cons, List.not_mem_nil, or_false] at h
  rcases h with (((h | h) | h) | h) | h | h | h | h <;> subst h <;> decide

theorem isWordChar_of_isDigit
    {c : Char} (h : c.isDigit = true) :
    isWordChar c = true := by
  simp [isWordChar, h]

theorem isWhitespace_of_isWordStart
    {c : Char} (h : isWordStart c = true) :
    c.isWhitespace = false := by
  cases hc : c.isWhitespace with
  | false => rfl
  | true =>
      simp only [Char.isWhitespace, Bool.or_eq_true, decide_eq_true_eq] at hc
      rcases hc with ((hc | hc) | hc) | hc <;> subst hc <;> cases h

/-- A delimited text stops every span of characters that are no delimiters. -/
theorem span_of_delimited
    {p : Char → Bool} {cs rest : List Char}
    (hp : ∀ c, p c = true → isDelimiter c = false)
    (hcs : ∀ c ∈ cs, p c = true)
    (hrest : Delimited rest) :
    (cs ++ rest).takeWhile p = cs ∧ (cs ++ rest).dropWhile p = rest := by
  rw [List.takeWhile_append_of_pos hcs, List.dropWhile_append_of_pos hcs]
  cases rest with
  | nil => simp
  | cons d text =>
      have hd : p d = false := by
        cases hpd : p d with
        | false => rfl
        | true =>
            have hnot := hp d hpd
            rw [show isDelimiter d = true from hrest] at hnot
            cases hnot
      simp [hd]

theorem isDelimiter_of_isWordChar
    {c : Char} (h : isWordChar c = true) :
    isDelimiter c = false := by
  cases hc : isDelimiter c with
  | false => rfl
  | true =>
      rw [isWordChar_of_isDelimiter hc] at h
      cases h

/-! ## Putting pieces together -/

theorem Reads.nil : Reads [] [] := by
  intro rest _
  simp

theorem ReadsFreely.reads
    {cs : List Char} {ts : List Token}
    (h : ReadsFreely cs ts) : Reads cs ts :=
  fun rest _ => h rest

theorem ReadsFreely.append
    {a b : List Char} {s t : List Token}
    (ha : ReadsFreely a s) (hb : ReadsFreely b t) :
    ReadsFreely (a ++ b) (s ++ t) := by
  intro rest
  rw [List.append_assoc, ha, hb, Option.map_map]
  congr 1
  funext ts
  exact (List.append_assoc s t ts).symm

theorem ReadsFreely.append_reads
    {a b : List Char} {s t : List Token}
    (ha : ReadsFreely a s) (hb : Reads b t) :
    Reads (a ++ b) (s ++ t) := by
  intro rest hrest
  rw [List.append_assoc, ha, hb rest hrest, Option.map_map]
  congr 1
  funext ts
  exact (List.append_assoc s t ts).symm

/-- Behind a separator any text may follow. -/
theorem Reads.append_free
    {a b : List Char} {s t : List Token}
    (ha : Reads a s) (hb : Separates b t) :
    ReadsFreely (a ++ b) (s ++ t) := by
  intro rest
  rw [List.append_assoc, ha _ (hb.delimited rest), hb.free, Option.map_map]
  congr 1
  funext ts
  exact (List.append_assoc s t ts).symm

theorem Reads.separated
    {a b c : List Char} {s t u : List Token}
    (ha : Reads a s) (hb : Separates b t) (hc : Reads c u) :
    Reads (a ++ b ++ c) (s ++ t ++ u) :=
  (ha.append_free hb).append_reads hc

/-- Pieces with a separator between them. -/
theorem reads_intercalate
    {sep : List Char} {t : List Token}
    {pieces : List (List Char)} {tokens : List (List Token)}
    (hsep : Separates sep t)
    (h : List.Forall₂ Reads pieces tokens) :
    Reads (sep.intercalate pieces) (t.intercalate tokens) := by
  induction h with
  | nil => exact Reads.nil
  | @cons a s pieces tokens ha htail ih =>
      cases htail with
      | nil => simpa using ha
      | cons hb htail =>
          rw [List.intercalate_cons_cons, List.intercalate_cons_cons]
          exact ha.separated hsep ih

/-- Pieces that are made from the members of a list, with a separator between them. -/
theorem reads_intercalate_map
    {α : Type} {sep : List Char} {t : List Token}
    {text : α → String} {tokens : α → List Token}
    (hsep : Separates sep t)
    {l : List α}
    (h : ∀ a ∈ l, Reads (text a).toList (tokens a)) :
    Reads (sep.intercalate ((l.map text).map String.toList))
      (t.intercalate (l.map tokens)) := by
  apply reads_intercalate hsep
  rw [List.map_map, List.forall₂_map_left_iff, List.forall₂_map_right_iff, List.forall₂_same]
  exact h

/-! ## Single tokens -/

/-- A bare word is one token. -/
theorem reads_word
    {word : List Char} {t : Token} (h : Spells word t) :
    Reads word [t] := by
  intro rest hrest
  obtain ⟨h, rfl⟩ := h
  cases word with
  | nil => cases h
  | cons c cs =>
      simp only [isPlainWord, Bool.and_eq_true, List.all_eq_true] at h
      obtain ⟨hc, hcs⟩ := h
      obtain ⟨htake, hdrop⟩ :=
        span_of_delimited (fun _ => isDelimiter_of_isWordChar) hcs hrest
      have hblank : c.isWhitespace = false := isWhitespace_of_isWordStart hc
      have htoken :
          readToken c (cs ++ rest) = some (Token.ofWord (c :: cs), rest) := by
        simp only [readToken, hc, if_true, htake, hdrop]
      rw [List.cons_append, lex_cons hblank htoken]
      rfl

/-- A reserved word in capitals is its keyword. -/
theorem spells_keyword
    (word : String) (h : word ∈ reservedWords) :
    Spells (word.toList.map Char.toUpper) (.keyword word) := by
  have hplain :
      ∀ w ∈ reservedWords, isPlainWord (w.toList.map Char.toUpper) = true := by
    decide +kernel
  have hlower :
      ∀ w ∈ reservedWords, (w.toList.map Char.toUpper).map Char.toLower = w.toList := by
    decide +kernel
  have hreserved : isReservedWord (word.toList.map Char.toUpper) = true := by
    apply List.any_eq_true.mpr
    refine ⟨word, h, ?_⟩
    rw [hlower word h]
    exact beq_self_eq_true _
  refine ⟨hplain word h, ?_⟩
  rw [Token.ofWord, if_pos hreserved, hlower word h, String.ofList_toList]

/-- The reader of quoted names undoes the doubling of backticks and backslashes. -/
theorem readQuoted_escaped
    (cs : List Char) {rest : List Char}
    (hrest : rest.head? ≠ some '\x60') :
    readQuoted (cs.flatMap escapedChar ++ '\x60' :: rest) = some (cs, rest) := by
  induction cs with
  | nil =>
      cases rest with
      | nil => rfl
      | cons d text =>
          have hd : d ≠ '\x60' := fun h => hrest (by rw [h]; rfl)
          simp [readQuoted, hd]
  | cons c cs ih =>
      rw [List.flatMap_cons, List.append_assoc]
      by_cases hback : c = '\\'
      · subst hback
        simp [escapedChar, readQuoted, ih, consName]
      · by_cases htick : c = '\x60'
        · subst htick
          simp [escapedChar, readQuoted, ih, consName]
        · have hself : escapedChar c = [c] := by
            simp [escapedChar, hback, htick]
          rw [hself, List.singleton_append, readQuoted_cons hback htick, ih]
          rfl

/-- A text that does not go on with a name in front of it: neither with its letters nor, behind a
closing backtick, with a second one. -/
def EndsName : List Char → Prop
  | [] => True
  | c :: _ => isWordChar c = false ∧ c ≠ '\x60'

instance : DecidablePred EndsName
  | [] => isTrue trivial
  | c :: _ => inferInstanceAs (Decidable (isWordChar c = false ∧ c ≠ '\x60'))

theorem endsName_of_delimited {rest : List Char} (h : Delimited rest) : EndsName rest := by
  cases rest with
  | nil => trivial
  | cons c text =>
      refine ⟨isWordChar_of_isDelimiter h, ?_⟩
      rintro rfl
      cases h

/-- A quoted identifier is one name, whatever characters it holds, before every text that does not
go on with it. -/
theorem readToken_quote (name : String) {rest : List Char} (hrest : EndsName rest) :
    ∃ c cs,
      (quote name).toList = c :: cs ∧ c.isWhitespace = false ∧
        readToken c (cs ++ rest) = some (.name name, rest) := by
  rw [quote, String.toList_ofList, quoteChars]
  split
  · rename_i hbare
    simp only [Bool.and_eq_true, Bool.not_eq_true'] at hbare
    obtain ⟨hplain, hfree⟩ := hbare
    cases hname : name.toList with
    | nil =>
        rw [hname] at hplain
        cases hplain
    | cons c cs =>
        rw [hname] at hplain hfree
        simp only [isPlainWord, Bool.and_eq_true, List.all_eq_true] at hplain
        obtain ⟨hc, hcs⟩ := hplain
        have hstop : rest.takeWhile isWordChar = [] ∧ rest.dropWhile isWordChar = rest := by
          cases rest with
          | nil => exact ⟨rfl, rfl⟩
          | cons d text => simp [hrest.1]
        have hword : Token.ofWord (c :: cs) = .name name := by
          rw [Token.ofWord, hfree, ← hname, String.ofList_toList]
          rfl
        refine ⟨c, cs, rfl, isWhitespace_of_isWordStart hc, ?_⟩
        simp only [readToken, hc, if_true, List.takeWhile_append_of_pos hcs,
          List.dropWhile_append_of_pos hcs, hstop, List.append_nil, hword]
  · have hhead : rest.head? ≠ some '\x60' := by
      cases rest with
      | nil => simp
      | cons d text => simpa using hrest.2
    refine ⟨'\x60', name.toList.flatMap escapedChar ++ ['\x60'], rfl, by decide, ?_⟩
    rw [List.append_assoc, List.singleton_append]
    simp [readToken, isWordStart, readQuoted_escaped name.toList hhead]

/-- A quoted identifier is read as the one name that was quoted. -/
theorem reads_quote (name : String) :
    Reads (quote name).toList [.name name] := by
  intro rest hrest
  obtain ⟨c, cs, htext, hblank, htoken⟩ := readToken_quote name (endsName_of_delimited hrest)
  rw [htext, List.cons_append, lex_cons hblank htoken]
  rfl

/-! ## Numbers and placeholders -/

/-- The letters and the underscore stand behind the digits. -/
theorem isWordStart_of_isDigit
    {c : Char} (h : c.isDigit = true) :
    isWordStart c = false := by
  have hne : c ≠ '_' := by
    rintro rfl
    cases h
  have hle : c.val.toNat ≤ 57 := by
    simp only [Char.isDigit, Bool.and_eq_true, decide_eq_true_eq] at h
    exact UInt32.le_iff_toNat_le.mp h.2
  have hcapital : ¬ 'A'.val ≤ c.val := by
    have hvalue : 'A'.val.toNat = 65 := rfl
    rw [UInt32.le_iff_toNat_le, hvalue]
    omega
  have hsmall : ¬ 'a'.val ≤ c.val := by
    have hvalue : 'a'.val.toNat = 97 := rfl
    rw [UInt32.le_iff_toNat_le, hvalue]
    omega
  have halpha :
      c.isAlpha =
        (decide ('A'.val ≤ c.val ∧ c.val ≤ 'Z'.val) ||
          decide ('a'.val ≤ c.val) && decide (c.val ≤ 'z'.val)) :=
    rfl
  simp only [isWordStart, halpha, hcapital, hsmall, hne, false_and, decide_false,
    Bool.false_and, Bool.or_self]

theorem ofDigits_natChars (n : Nat) :
    Decimal.ofDigits (Decimal.natChars n) = n :=
  Nat.ofDigitChars_ten_toDigits

theorem isDigit_of_mem_natChars
    {n : Nat} {c : Char} (h : c ∈ Decimal.natChars n) :
    c.isDigit = true :=
  Nat.isDigit_of_mem_toDigits (by decide) (by decide) h

/-- A whole number is one token. -/
theorem reads_natText (n : Nat) :
    Reads (Decimal.natText n).toList [.number n] := by
  intro rest hrest
  rw [Decimal.natText, String.toList_ofList]
  have hvalue := ofDigits_natChars n
  have hdigits : ∀ c ∈ Decimal.natChars n, c.isDigit = true :=
    fun _ => isDigit_of_mem_natChars
  cases hn : Decimal.natChars n with
  | nil => exact absurd hn Nat.toDigits_ne_nil
  | cons c cs =>
      rw [hn] at hvalue hdigits
      have hc : c.isDigit = true := hdigits c (List.mem_cons_self ..)
      have hcs : ∀ d ∈ cs, d.isDigit = true :=
        fun d hd => hdigits d (List.mem_cons_of_mem c hd)
      have hspan : ∀ d : Char, d.isDigit = true → isDelimiter d = false :=
        fun _ hd => isDelimiter_of_isWordChar (isWordChar_of_isDigit hd)
      obtain ⟨htake, hdrop⟩ := span_of_delimited hspan hcs hrest
      have hblank : c.isWhitespace = false := by
        have hnot := hspan c hc
        simp only [isDelimiter, Bool.or_eq_false_iff] at hnot
        exact hnot.1
      have htoken : readToken c (cs ++ rest) = some (.number n, rest) := by
        simp only [readToken, isWordStart_of_isDigit hc, Bool.false_eq_true, if_false, hc,
          if_true, htake, hdrop, hvalue]
      rw [List.cons_append, lex_cons hblank htoken]
      rfl

end Lexer

/-- A placeholder as a token. -/
def Placeholder.token (p : Placeholder) : Token :=
  .placeholder p.name p.type.text

namespace Lexer

theorem isTypeChar_of_mem_text
    (type : ValueType) :
    ∀ c ∈ type.text.toList, isTypeChar c = true := by
  have hall : type.text.toList.all isTypeChar = true := by
    cases type <;> decide
  exact List.all_eq_true.mp hall

/-- A placeholder whose name is made of word characters is one token. -/
theorem readsFreely_placeholder
    (p : Placeholder)
    (hname : ∀ c ∈ p.name.toList, isWordChar c = true) :
    ReadsFreely p.sql.toList [p.token] := by
  intro rest
  have htext :
      p.sql.toList ++ rest =
        '\x7b' :: (p.name.toList ++ ':' :: (p.type.text.toList ++ '\x7d' :: rest)) := by
    simp [Placeholder.sql]
  have hcolon :
      (p.name.toList ++ ':' :: (p.type.text.toList ++ '\x7d' :: rest)).takeWhile isWordChar =
          p.name.toList ∧
        (p.name.toList ++ ':' :: (p.type.text.toList ++ '\x7d' :: rest)).dropWhile isWordChar =
          ':' :: (p.type.text.toList ++ '\x7d' :: rest) := by
    rw [List.takeWhile_append_of_pos hname, List.dropWhile_append_of_pos hname]
    simp [isWordChar]
  have hbrace :
      (p.type.text.toList ++ '\x7d' :: rest).takeWhile isTypeChar = p.type.text.toList ∧
        (p.type.text.toList ++ '\x7d' :: rest).dropWhile isTypeChar = '\x7d' :: rest := by
    have htype := isTypeChar_of_mem_text p.type
    rw [List.takeWhile_append_of_pos htype, List.dropWhile_append_of_pos htype]
    simp [isTypeChar, isWordChar]
  have htoken :
      readToken '\x7b' (p.name.toList ++ ':' :: (p.type.text.toList ++ '\x7d' :: rest)) =
        some (p.token, rest) := by
    have hplace :
        readToken '\x7b' (p.name.toList ++ ':' :: (p.type.text.toList ++ '\x7d' :: rest)) =
          readPlaceholder (p.name.toList ++ ':' :: (p.type.text.toList ++ '\x7d' :: rest)) := rfl
    rw [hplace]
    simp only [readPlaceholder, hcolon, hbrace, String.ofList_toList, Placeholder.token]
  rw [htext, lex_cons (by decide) htoken]
  rfl

/-! ## Separators -/

theorem separates_blank
    {c : Char} (hc : c.isWhitespace = true) :
    Separates [c] [] where
  delimited rest := by
    simp [Delimited, isDelimiter, hc]
  free rest := by
    rw [List.singleton_append, lex_blank hc]
    simp

/-- A parenthesis, a comma and a period are tokens of their own. -/
theorem separates_sign
    {c : Char} (hc : c ∈ ['(', ')', ',', '.']) :
    Separates [c] [.sign (String.singleton c)] where
  delimited rest := by
    simp only [List.singleton_append, Delimited, isDelimiter, hc, decide_true, Bool.or_true]
  free rest := by
    simp only [List.mem_cons, List.not_mem_nil, or_false] at hc
    rcases hc with hc | hc | hc | hc <;> subst hc <;>
      exact lex_cons (by decide) rfl

theorem Separates.append
    {a b : List Char} {s t : List Token}
    (ha : Separates a s) (hb : ReadsFreely b t) :
    Separates (a ++ b) (s ++ t) where
  delimited rest := by
    rw [List.append_assoc]
    exact ha.delimited (b ++ rest)
  free := ha.free.append hb

/-- A word with a blank behind it. -/
theorem readsFreely_word
    {word : List Char} {t : Token} (h : Spells word t) :
    ReadsFreely (word ++ [' ']) [t] := by
  have hblank : Separates [' '] [] := separates_blank (by decide)
  exact (reads_word h).append_free hblank

/-- A word between two blanks. -/
theorem separates_word
    {word : List Char} {t : Token} (h : Spells word t) :
    Separates (' ' :: (word ++ [' '])) [t] := by
  have hblank : Separates [' '] [] := separates_blank (by decide)
  exact hblank.append (readsFreely_word h)

theorem separates_comma : Separates [',', ' '] [.sign ","] := by
  have hcomma : Separates [','] [.sign ","] := separates_sign (by decide)
  have hblank : Separates [' '] [] := separates_blank (by decide)
  exact hcomma.append hblank.free

end Lexer
end Sql
end AnalyticsQuery
