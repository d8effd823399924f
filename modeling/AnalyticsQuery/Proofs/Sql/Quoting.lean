import AnalyticsQuery.Proofs.Sql.Reading

/-!
# Quoted identifiers on their own

An identifier is written bare or in backticks, and the text behind it may be
anything that does not go on with it.  A reader that knows the rules of the query
language only, and neither the name nor where it ends, gets the name back and
stops right behind it.  So no two names are written alike.

* `flatMap_escapedChar`: a name is escaped by doubling all its backslashes, and
  then all its backticks.
* `readName_quote`: the name is read back, and the text behind it is left.
* `quote_cases`: what is written bare is no reserved word, and all else is escaped.
* `quote_decodes`: these together, and that no two names are written alike.
-/

namespace AnalyticsQuery
namespace Sql

/-- A text in which one character is written twice wherever it stands. -/
def doubled (c : Char) (cs : List Char) : List Char :=
  cs.flatMap fun d => if d = c then [c, c] else [d]

/-- The backticks that are doubled last are those of the name: doubling the backslashes first brings
in no others. -/
theorem flatMap_escapedChar (cs : List Char) :
    cs.flatMap escapedChar = doubled '\x60' (doubled '\\' cs) := by
  rw [doubled, doubled, List.flatMap_assoc]
  congr 1
  funext d
  by_cases hback : d = '\\'
  · subst hback
    rfl
  · by_cases htick : d = '\x60'
    · subst htick
      rfl
    · simp [escapedChar, hback, htick]

/-- Read one identifier: the name that it stands for, and the text behind it.  A reserved word that
stands bare is none. -/
def readName (text : String) : Option (String × String) :=
  match text.toList with
  | [] => none
  | c :: rest =>
      match Lexer.readToken c rest with
      | some (.name name, after) => some (name, String.ofList after)
      | _ => none

/-- The name of a quoted identifier is read back, and the text behind it is left. -/
theorem readName_quote (name : String) {rest : String} (hrest : Lexer.EndsName rest.toList) :
    readName (quote name ++ rest) = some (name, rest) := by
  obtain ⟨c, cs, htext, -, htoken⟩ := Lexer.readToken_quote name hrest
  rw [readName, String.toList_append, htext, List.cons_append]
  simp only [htoken, String.ofList_toList]

/-- A name is written bare when it is plain and no reserved word in any letter case, and else in
backticks. -/
theorem quote_cases (name : String) :
    (quote name = name ∧ isPlain name = true ∧
        ∀ word ∈ reservedWords, (quote name).toList.map Char.toLower ≠ word.toList) ∨
      (quote name).toList = '\x60' :: doubled '\x60' (doubled '\\' name.toList) ++ ['\x60'] := by
  by_cases hbare : (isPlainWord name.toList && !isReservedWord name.toList) = true
  · have hquote : quote name = name := by
      rw [quote, quoteChars, if_pos hbare, String.ofList_toList]
    simp only [Bool.and_eq_true, Bool.not_eq_true'] at hbare
    obtain ⟨hplain, hfree⟩ := hbare
    refine Or.inl ⟨hquote, hplain, ?_⟩
    intro word hword heq
    rw [hquote] at heq
    have hreserved : isReservedWord name.toList = true :=
      List.any_eq_true.mpr ⟨word, hword, beq_iff_eq.mpr heq.symm⟩
    rw [hfree] at hreserved
    cases hreserved
  · right
    rw [quote, String.toList_ofList, quoteChars, if_neg hbare, flatMap_escapedChar]

/-- No two names are written alike. -/
theorem eq_of_quote_eq {name name' : String} (h : quote name = quote name') : name = name' := by
  have hnothing : Lexer.EndsName "".toList := trivial
  have hread := readName_quote name hnothing
  rw [h, readName_quote name' hnothing] at hread
  cases hread
  rfl

/-- A quoted identifier can be told from the text behind it: a reader of one identifier gets the
name back and leaves what follows, whatever follows that does not go on with a name.  What stands
bare is the name itself, and no reserved word in any letter case; all else stands in backticks, with
its backslashes doubled and then its backticks.  So no two names are written alike. -/
theorem quote_decodes :
    (∀ name rest : String, Lexer.EndsName rest.toList →
      readName (quote name ++ rest) = some (name, rest)) ∧
    (∀ name,
      (quote name = name ∧ isPlain name = true ∧
          ∀ word ∈ reservedWords, (quote name).toList.map Char.toLower ≠ word.toList) ∨
        (quote name).toList = '\x60' :: doubled '\x60' (doubled '\\' name.toList) ++ ['\x60']) ∧
    ∀ name name', quote name = quote name' → name = name' :=
  ⟨fun name _ => readName_quote name, quote_cases, fun _ _ => eq_of_quote_eq⟩

/-- A name of backticks and backslashes that would close its quotes early, or swallow the closing
one, in front of an alias in backticks. -/
theorem quote_decodes_closingName :
    Lexer.EndsName " AS `x`".toList ∧
      quote "a`\\`; --\\" = "`a``\\\\``; --\\\\`" ∧
      readName (quote "a`\\`; --\\" ++ " AS `x`") = some ("a`\\`; --\\", " AS `x`") := by
  have hends : Lexer.EndsName " AS `x`".toList := by decide
  exact ⟨hends, by decide +kernel, quote_decodes.1 _ _ hends⟩

end Sql
end AnalyticsQuery
