import AnalyticsQuery.Decimal.Integer
import AnalyticsQuery.Sql.Identifier

/-!
# A reader of query text

This module reads query text into tokens without any knowledge of how queries
are made.

* Blanks separate tokens and are none themselves.
* A bare word is a keyword when it is reserved in some letter case, and else
  the name that it spells.
* A name in backticks may hold any character; a doubled backtick and a
  character behind a backslash stand for themselves.
* A placeholder stands in braces and has a name and a type.
* What is left are whole numbers, punctuation and comparison signs.

A text with any other character outside backticks has no tokens at all, so
there is no way to write a comment or a text literal.  The reader is total: it
ends because each token takes at least one character.
-/

namespace AnalyticsQuery
namespace Sql

/-- A token of query text. -/
inductive Token
  /-- A reserved word, in small letters. -/
  | keyword (word : String)
  /-- An identifier without its quotes. -/
  | name (text : String)
  | placeholder (name type : String)
  | number (value : Nat)
  /-- Punctuation or a comparison sign. -/
  | sign (text : String)
deriving DecidableEq, Repr

/-- The token of a bare word. -/
def Token.ofWord (word : List Char) : Token :=
  if isReservedWord word then keyword (String.ofList (word.map Char.toLower))
  else name (String.ofList word)

/-- A bare word that is read as a token. -/
structure Spells (word : List Char) (t : Token) : Prop where
  plain : isPlainWord word = true
  token : Token.ofWord word = t

instance (word : List Char) (t : Token) : Decidable (Spells word t) :=
  decidable_of_iff (isPlainWord word = true ∧ Token.ofWord word = t)
    ⟨fun h => ⟨h.1, h.2⟩, fun h => ⟨h.plain, h.token⟩⟩

namespace Lexer

/-- Put a character in front of the name that was read. -/
def consName (c : Char) (r : List Char × List Char) : List Char × List Char :=
  (c :: r.1, r.2)

/-- The name up to the closing backtick, and the text behind it. -/
def readQuoted : List Char → Option (List Char × List Char)
  | [] => none
  | c :: rest =>
      if c = '\\' then
        match rest with
        | [] => none
        | d :: after => (readQuoted after).map (consName d)
      else if c = '\x60' then
        match rest with
        | [] => some ([], [])
        | d :: after =>
            if d = '\x60' then (readQuoted after).map (consName d)
            else some ([], d :: after)
      else (readQuoted rest).map (consName c)

/-- Whether a character may stand in the type of a placeholder. -/
def isTypeChar (c : Char) : Bool :=
  isWordChar c || c = '(' || c = ')'

/-- The placeholder behind an opening brace, and the text behind it. -/
def readPlaceholder (cs : List Char) : Option (Token × List Char) :=
  match cs.dropWhile isWordChar with
  | ':' :: rest =>
      match rest.dropWhile isTypeChar with
      | '}' :: after =>
          some (.placeholder (String.ofList (cs.takeWhile isWordChar))
            (String.ofList (rest.takeWhile isTypeChar)), after)
      | _ => none
  | _ => none

/-- The signs of one character. -/
def signs : List Char := ['(', ')', ',', '.', ';', '*', '=', '<', '>']

/-- The sign that begins with a character, and the text behind it. -/
def readSign (c : Char) (rest : List Char) : Option (Token × List Char) :=
  if c ∈ ['!', '<', '>'] ∧ rest.head? = some '=' then
    some (.sign (String.ofList [c, '=']), rest.tail)
  else if c ∈ signs then some (.sign (String.singleton c), rest)
  else none

/-- The token that begins with a character, and the text behind it. -/
def readToken (c : Char) (rest : List Char) : Option (Token × List Char) :=
  if isWordStart c then
    some (.ofWord (c :: rest.takeWhile isWordChar), rest.dropWhile isWordChar)
  else if c.isDigit then
    some (.number (Decimal.ofDigits (c :: rest.takeWhile Char.isDigit)),
      rest.dropWhile Char.isDigit)
  else if c = '\x60' then
    (readQuoted rest).map fun r => (.name (String.ofList r.1), r.2)
  else if c = '\x7b' then readPlaceholder rest
  else readSign c rest

theorem length_dropWhile_le
    (p : Char → Bool) (cs : List Char) :
    (cs.dropWhile p).length ≤ cs.length :=
  (List.dropWhile_suffix p).length_le

theorem of_map_consName
    {c : Char} {name after : List Char}
    {r : Option (List Char × List Char)}
    (h : r.map (consName c) = some (name, after)) :
    ∃ shorter, r = some (shorter, after) := by
  obtain ⟨⟨shorter, text⟩, hr, heq⟩ := Option.map_eq_some_iff.mp h
  simp only [consName, Prod.mk.injEq] at heq
  obtain ⟨-, rfl⟩ := heq
  exact ⟨shorter, hr⟩

/-- A character other than the two special ones stands for itself. -/
theorem readQuoted_cons
    {c : Char} (hback : c ≠ '\\') (htick : c ≠ '\x60')
    (rest : List Char) :
    readQuoted (c :: rest) = (readQuoted rest).map (consName c) := by
  rw [readQuoted.eq_def]
  simp [hback, htick]

theorem length_readQuoted
    {cs name after : List Char}
    (h : readQuoted cs = some (name, after)) :
    after.length ≤ cs.length := by
  fun_induction readQuoted cs generalizing name with
  | case1 => cases h
  | case2 => cases h
  | case3 d rest ih =>
      obtain ⟨shorter, hread⟩ := of_map_consName h
      have hle := ih hread
      simp only [List.length_cons]
      omega
  | case4 =>
      cases h
      exact Nat.zero_le _
  | case5 _ rest ih =>
      obtain ⟨shorter, hread⟩ := of_map_consName h
      have hle := ih hread
      simp only [List.length_cons]
      omega
  | case6 =>
      cases h
      exact Nat.le_succ _
  | case7 d rest _ _ ih =>
      obtain ⟨shorter, hread⟩ := of_map_consName h
      have hle := ih hread
      simp only [List.length_cons]
      omega

theorem length_readPlaceholder
    {cs after : List Char} {t : Token}
    (h : readPlaceholder cs = some (t, after)) :
    after.length ≤ cs.length := by
  unfold readPlaceholder at h
  split at h
  · rename_i rest hrest
    split at h
    · rename_i text htext
      simp only [Option.some.injEq, Prod.mk.injEq] at h
      obtain ⟨-, rfl⟩ := h
      have hname := length_dropWhile_le isWordChar cs
      have htype := length_dropWhile_le isTypeChar rest
      rw [hrest] at hname
      rw [htext] at htype
      simp only [List.length_cons] at hname htype
      omega
    · cases h
  · cases h

theorem length_readSign
    {c : Char} {rest after : List Char} {t : Token}
    (h : readSign c rest = some (t, after)) :
    after.length ≤ rest.length := by
  unfold readSign at h
  split at h
  · cases h
    simp
  · split at h
    · cases h
      exact Nat.le_refl _
    · cases h

/-- A token takes its first character and no text in front of it. -/
theorem length_readToken
    {c : Char} {rest after : List Char} {t : Token}
    (h : readToken c rest = some (t, after)) :
    after.length ≤ rest.length := by
  unfold readToken at h
  split at h
  · cases h
    exact length_dropWhile_le _ _
  · split at h
    · cases h
      exact length_dropWhile_le _ _
    · split at h
      · obtain ⟨⟨name, text⟩, hread, heq⟩ := Option.map_eq_some_iff.mp h
        cases heq
        exact length_readQuoted hread
      · split at h
        · exact length_readPlaceholder h
        · exact length_readSign h

/-- The tokens of a text, if it has no character that begins none. -/
def lex : List Char → Option (List Token)
  | [] => some []
  | c :: rest =>
      if c.isWhitespace then lex rest
      else
        match _hread : readToken c rest with
        | none => none
        | some (t, after) => (lex after).map (t :: ·)
termination_by cs => cs.length
decreasing_by
  · exact Nat.lt_succ_self _
  · exact Nat.lt_succ_of_le (length_readToken _hread)

@[simp] theorem lex_nil : lex [] = some [] := by
  rw [lex]

theorem lex_blank
    {c : Char} (hc : c.isWhitespace = true) (rest : List Char) :
    lex (c :: rest) = lex rest := by
  rw [lex]
  simp [hc]

theorem lex_cons
    {c : Char} {rest after : List Char} {t : Token}
    (hc : c.isWhitespace = false)
    (h : readToken c rest = some (t, after)) :
    lex (c :: rest) = (lex after).map (t :: ·) := by
  rw [lex]
  simp only [hc, Bool.false_eq_true, if_false]
  split
  · rename_i hnone
    rw [h] at hnone
    cases hnone
  · rename_i t' after' hsome
    rw [h] at hsome
    cases hsome
    rfl

end Lexer

/-- The tokens of a query text. -/
def tokens? (sql : String) : Option (List Token) :=
  Lexer.lex sql.toList

end Sql
end AnalyticsQuery
