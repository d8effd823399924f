import AnalyticsQuery.Proofs.Sql.Reading

/-!
# The tokens of a statement

A statement is a list of clauses, each with a first word that tells it apart
and the tokens behind that word.  The clauses are built from the parts of the
statement without a look at its text: a column, a database, a table and an
output column are one name each, and a value is a placeholder.

The main result is `tokens?_sql`: the text of a statement has exactly the
tokens of its clauses.
-/

namespace AnalyticsQuery

/-- The tokens of an operator. -/
def Operator.tokens : Operator → List Sql.Token
  | eq => [.sign "="]
  | ne => [.sign "!="]
  | gt => [.sign ">"]
  | lt => [.sign "<"]
  | gte => [.sign ">="]
  | lte => [.sign "<="]
  | contains => [.keyword "like"]
  | notContains => [.keyword "not", .keyword "like"]
  | startsWith => [.name "startsWith"]
  | isIn => [.keyword "in"]
  | notIn => [.keyword "not", .keyword "in"]

/-- The function that gives the unit of time of a moment. -/
def TimeUnit.function : TimeUnit → String
  | hour => "toStartOfHour"
  | day => "toDate"

/-- Every operator but the one that is a function stands between column and operand. -/
theorem Operator.predicate_of_ne
    {o : Operator} (h : o ≠ .startsWith) (column operand : String) :
    o.predicate column operand = column ++ " " ++ o.symbol ++ " " ++ operand := by
  cases o <;> first | rfl | exact absurd rfl h

theorem TimeUnit.bucketSql_eq
    (unit : TimeUnit) (column timezone : String) :
    unit.bucketSql column timezone =
      unit.function ++ "(" ++ column ++ ", " ++ timezone ++ ")" := by
  have hhour : "toStartOfHour(" = TimeUnit.hour.function ++ "(" := by decide
  have hday : "toDate(" = TimeUnit.day.function ++ "(" := by decide
  cases unit with
  | hour => rw [TimeUnit.bucketSql.eq_def, hhour]
  | day => rw [TimeUnit.bucketSql.eq_def, hday]

namespace Sql

/-- The name of the placeholder of an operand. -/
def Operand.parameter : Operand → String
  | value p => p.name
  | moment name => name

/-- The tokens of an operand. -/
def Operand.tokens : Operand → List Token
  | value p => [p.token]
  | moment name =>
      [.name "parseDateTimeBestEffort", .sign "(", .placeholder name "String", .sign ",",
        .placeholder "timezone" "String", .sign ")"]

/-- The tokens of a comparison; the operator stands in front only when it is a function. -/
def Comparison.tokens (c : Comparison) : List Token :=
  if c.operator = .startsWith then
    [.name "startsWith", .sign "(", .name c.column, .sign ","] ++ c.operand.tokens ++ [.sign ")"]
  else [.name c.column] ++ c.operator.tokens ++ c.operand.tokens

/-- The tokens of an output column. -/
def Projection.tokens : Projection → List Token
  | bucket unit column =>
      [.name unit.function, .sign "(", .name column, .sign ",", .placeholder "timezone" "String",
        .sign ")", .keyword "as", .name "date"]
  | key column => [.name column]
  | aggregate function column name =>
      [.name function.token, .sign "("] ++ (column.map Token.name).toList ++
        [.sign ")", .keyword "as", .name name]

/-- A clause of a query: its first word and the tokens behind it. -/
structure Clause where
  word : String
  body : List Token
deriving DecidableEq, Repr

/-- The tokens of a clause. -/
def Clause.tokens (c : Clause) : List Token :=
  .keyword c.word :: c.body

/-- Lists of tokens with commas between them. -/
def Token.listed (items : List (List Token)) : List Token :=
  [.sign ","].intercalate items

/-- Lists of tokens with AND between them. -/
def Token.conjoined (items : List (List Token)) : List Token :=
  [.keyword "and"].intercalate items

namespace Statement

/-- The clause that groups the rows, if there are keys. -/
def groupClause (keys : List String) : List Clause :=
  if keys.isEmpty then []
  else [⟨"group", .keyword "by" :: Token.listed (keys.map fun k => [.name k])⟩]

/-- The clause that orders the rows, if there is an order. -/
def orderClause (order : Option RowOrder) : List Clause :=
  order.toList.map fun o =>
    ⟨"order", [.keyword "by", .name o.column, .keyword (if o.descending then "desc" else "asc")]⟩

/-- The clause that leaves out rows, if there are any to leave out. -/
def offsetClause (offset : UInt32) : List Clause :=
  if 0 < offset then [⟨"offset", [.number offset.toNat]⟩] else []

/-- The clauses of a statement. -/
def clauses (s : Statement) : List Clause :=
  [ ⟨"select", Token.listed (s.projection.map Projection.tokens)⟩,
    ⟨"from", [.name s.database, .sign ".", .name s.table]⟩,
    ⟨"where", Token.conjoined (s.conjuncts.map Comparison.tokens)⟩ ] ++
  groupClause s.groupKeys ++ orderClause s.order ++
  [⟨"limit", [.number s.limit.toNat]⟩] ++ offsetClause s.offset

end Statement

/-- The placeholders of a statement are named by word characters. -/
def Statement.PlainParameters (s : Statement) : Prop :=
  ∀ c ∈ s.conjuncts, ∀ d ∈ c.operand.parameter.toList, isWordChar d = true

namespace Lexer

/-! ## Fixed words -/

/-- The name of a function with a parenthesis behind it. -/
theorem readsFreely_call
    {function : List Char} {t : Token} (h : Spells function t) :
    ReadsFreely (function ++ ['(']) [t, .sign "("] :=
  (reads_word h).append_free (separates_sign (by decide))

theorem separates_as : Separates " AS ".toList [.keyword "as"] := by
  have hword : Spells "AS".toList (.keyword "as") := spells_keyword "as" (by decide)
  exact separates_word hword

theorem separates_and : Separates " AND ".toList [.keyword "and"] := by
  have hword : Spells "AND".toList (.keyword "and") := spells_keyword "and" (by decide)
  exact separates_word hword

theorem separates_close : Separates ")".toList [.sign ")"] :=
  separates_sign (by decide)

/-! ## Operators and operands -/

/-- A sign between blanks. -/
theorem separates_spaced
    (c : Char) (cs : List Char) {t : Token}
    (hc : c.isWhitespace = false)
    (h : ∀ rest, readToken c (cs ++ ' ' :: rest) = some (t, ' ' :: rest)) :
    Separates (' ' :: (c :: cs ++ [' '])) [t] where
  delimited _ := rfl
  free rest := by
    have htext : ' ' :: (c :: cs ++ [' ']) ++ rest = ' ' :: c :: (cs ++ ' ' :: rest) := by
      simp
    rw [htext, lex_blank (by decide), lex_cons hc (h rest), lex_blank (by decide)]
    rfl

/-- Two words with blanks around them. -/
theorem separates_two_words
    {first second : List Char} {s t : Token}
    (hfirst : Spells first s) (hsecond : Spells second t) :
    Separates (' ' :: (first ++ ' ' :: (second ++ [' ']))) [s, t] := by
  have hnext := (separates_word hfirst).append (readsFreely_word hsecond)
  simpa using hnext

/-- The sign or word of an operator between blanks. -/
theorem separates_symbol
    {o : Operator} (ho : o ≠ .startsWith) :
    Separates (' ' :: (o.symbol.toList ++ [' '])) o.tokens := by
  have hlike : Spells "LIKE".toList (.keyword "like") := spells_keyword "like" (by decide)
  have hin : Spells "IN".toList (.keyword "in") := spells_keyword "in" (by decide)
  have hnot : Spells "NOT".toList (.keyword "not") := spells_keyword "not" (by decide)
  cases o with
  | eq => exact separates_spaced '=' [] (by decide) fun _ => rfl
  | ne => exact separates_spaced '!' ['='] (by decide) fun _ => rfl
  | gt => exact separates_spaced '>' [] (by decide) fun _ => rfl
  | lt => exact separates_spaced '<' [] (by decide) fun _ => rfl
  | gte => exact separates_spaced '>' ['='] (by decide) fun _ => rfl
  | lte => exact separates_spaced '<' ['='] (by decide) fun _ => rfl
  | contains => exact separates_word hlike
  | notContains => exact separates_two_words hnot hlike
  | startsWith => exact absurd rfl ho
  | isIn => exact separates_word hin
  | notIn => exact separates_two_words hnot hin

theorem readsFreely_timezone :
    ReadsFreely timezonePlaceholder.sql.toList [.placeholder "timezone" "String"] := by
  have hname : timezoneParameter.toList.all isWordChar = true := by decide
  exact readsFreely_placeholder timezonePlaceholder (List.all_eq_true.mp hname)

theorem reads_operand
    (o : Operand)
    (h : ∀ d ∈ o.parameter.toList, isWordChar d = true) :
    Reads o.sql.toList o.tokens := by
  cases o with
  | value p => exact (readsFreely_placeholder p h).reads
  | moment name =>
      have hfunction :
          Spells "parseDateTimeBestEffort".toList (.name "parseDateTimeBestEffort") := by
        decide +kernel
      have hcall := readsFreely_call hfunction
      have hname := readsFreely_placeholder ⟨name, .string⟩ h
      have hargs :=
        (hname.reads.append_free separates_comma).append readsFreely_timezone
      have hall := (hcall.append hargs).reads.append_free separates_close
      have htext :
          (Operand.moment name).sql.toList =
            "parseDateTimeBestEffort".toList ++ ['('] ++
              ((Placeholder.mk name .string).sql.toList ++ [',', ' '] ++
                timezonePlaceholder.sql.toList) ++ ")".toList := by
        rw [Operand.sql.eq_def]
        simp
      rw [htext]
      exact hall.reads

theorem reads_comparison
    (c : Comparison)
    (h : ∀ d ∈ c.operand.parameter.toList, isWordChar d = true) :
    Reads c.sql.toList c.tokens := by
  have hcolumn := reads_quote c.column
  have hoperand := reads_operand c.operand h
  by_cases ho : c.operator = .startsWith
  · have hfunction : Spells "startsWith".toList (.name "startsWith") := by decide +kernel
    have hcall := readsFreely_call hfunction
    have hargs := hcolumn.separated separates_comma hoperand
    have hall := (hcall.append_reads hargs).append_free separates_close
    have htext :
        c.sql.toList =
          "startsWith".toList ++ ['('] ++
            ((quote c.column).toList ++ [',', ' '] ++ c.operand.sql.toList) ++ ")".toList := by
      rw [Comparison.sql, ho]
      simp [Operator.predicate, Operator.family]
    have htokens :
        c.tokens =
          [Token.name "startsWith", Token.sign "("] ++
            ([Token.name c.column] ++ [Token.sign ","] ++ c.operand.tokens) ++
            [Token.sign ")"] := by
      simp [Comparison.tokens, ho]
    rw [htext, htokens]
    exact hall.reads
  · have hall := hcolumn.separated (separates_symbol ho) hoperand
    have htext :
        c.sql.toList =
          (quote c.column).toList ++ ' ' :: (c.operator.symbol.toList ++ [' ']) ++
            c.operand.sql.toList := by
      rw [Comparison.sql, Operator.predicate_of_ne ho]
      simp
    rw [htext, Comparison.tokens, if_neg ho]
    exact hall

/-! ## Output columns -/

theorem spells_function (unit : TimeUnit) :
    Spells unit.function.toList (.name unit.function) := by
  cases unit <;> decide +kernel

theorem spells_aggregate (a : Aggregate) :
    Spells a.token.toList (.name a.token) := by
  cases a <;> decide +kernel

/-- The column of an aggregate, or nothing when it is taken of all rows. -/
theorem reads_argument (column : Option String) :
    Reads ((column.map quote).getD "").toList (column.map Token.name).toList := by
  cases column with
  | none => exact Reads.nil
  | some column => exact reads_quote column

theorem reads_projection (p : Projection) :
    Reads p.sql.toList p.tokens := by
  cases p with
  | bucket unit column =>
      have hcall := readsFreely_call (spells_function unit)
      have hargs :=
        ((reads_quote column).append_free separates_comma).append readsFreely_timezone
      have hbucket := (hcall.append hargs).reads.append_free separates_close
      have hall := hbucket.reads.separated separates_as (reads_quote bucketColumn)
      have htext :
          (Projection.bucket unit column).sql.toList =
            unit.function.toList ++ ['('] ++
              ((quote column).toList ++ [',', ' '] ++ timezonePlaceholder.sql.toList) ++
              ")".toList ++ " AS ".toList ++ (quote bucketColumn).toList := by
        rw [Projection.sql.eq_def]
        simp [TimeUnit.bucketSql_eq]
      rw [htext]
      exact hall
  | key column => exact reads_quote column
  | aggregate function column name =>
      have hcall := readsFreely_call (spells_aggregate function)
      have hargs := (hcall.append_reads (reads_argument column)).append_free separates_close
      have hall := hargs.reads.separated separates_as (reads_quote name)
      have htext :
          (Projection.aggregate function column name).sql.toList =
            function.token.toList ++ ['('] ++ ((column.map quote).getD "").toList ++
              ")".toList ++ " AS ".toList ++ (quote name).toList := by
        rw [Projection.sql.eq_def]
        simp [Aggregate.sql]
      have htokens :
          (Projection.aggregate function column name).tokens =
            [Token.name function.token, Token.sign "("] ++ (column.map Token.name).toList ++
              [Token.sign ")"] ++ [Token.keyword "as"] ++ [Token.name name] := by
        simp [Projection.tokens]
      rw [htext, htokens]
      exact hall

/-! ## Clauses -/

/-- The first word of a clause, a blank and a list. -/
theorem reads_clause
    {α : Type} {word sep : List Char} {t : Token} {seps : List Token}
    {text : α → String} {tokens : α → List Token} {l : List α}
    (hword : Spells word t) (hsep : Separates sep seps)
    (h : ∀ a ∈ l, Reads (text a).toList (tokens a)) :
    Reads (word ++ [' '] ++ sep.intercalate ((l.map text).map String.toList))
      (t :: seps.intercalate (l.map tokens)) :=
  (readsFreely_word hword).append_reads (reads_intercalate_map hsep h)

theorem reads_select (projection : List Projection) :
    Reads ("SELECT " ++ String.intercalate ", " (projection.map Projection.sql)).toList
      (Clause.tokens ⟨"select", Token.listed (projection.map Projection.tokens)⟩) := by
  have hword : Spells "SELECT".toList (.keyword "select") := spells_keyword "select" (by decide)
  rw [String.toList_append, String.toList_intercalate]
  exact reads_clause hword separates_comma fun p _ => reads_projection p

theorem reads_from (database table : String) :
    Reads ("FROM " ++ quote database ++ "." ++ quote table).toList
      (Clause.tokens ⟨"from", [.name database, .sign ".", .name table]⟩) := by
  have hword : Spells "FROM".toList (.keyword "from") := spells_keyword "from" (by decide)
  have hperiod : Separates ['.'] [.sign "."] := separates_sign (by decide)
  have hname := (reads_quote database).separated hperiod (reads_quote table)
  have hall := (readsFreely_word hword).append_reads hname
  simpa [Clause.tokens] using hall

theorem reads_where
    (conjuncts : List Comparison)
    (h : ∀ c ∈ conjuncts, ∀ d ∈ c.operand.parameter.toList, isWordChar d = true) :
    Reads ("WHERE " ++ String.intercalate " AND " (conjuncts.map Comparison.sql)).toList
      (Clause.tokens ⟨"where", Token.conjoined (conjuncts.map Comparison.tokens)⟩) := by
  have hword : Spells "WHERE".toList (.keyword "where") := spells_keyword "where" (by decide)
  rw [String.toList_append, String.toList_intercalate]
  exact reads_clause hword separates_and fun c hc => reads_comparison c (h c hc)

theorem reads_groupBy (keys : List String) :
    Reads ("GROUP BY " ++ String.intercalate ", " (keys.map quote)).toList
      (Clause.tokens
        ⟨"group", .keyword "by" :: Token.listed (keys.map fun k => [.name k])⟩) := by
  have hword : Spells "GROUP".toList (.keyword "group") := spells_keyword "group" (by decide)
  have hby : Spells "BY".toList (.keyword "by") := spells_keyword "by" (by decide)
  have hkeys :
      Reads ("BY".toList ++ [' '] ++ [',', ' '].intercalate ((keys.map quote).map String.toList))
        (.keyword "by" :: [.sign ","].intercalate (keys.map fun k => [.name k])) :=
    reads_clause hby separates_comma fun k _ => reads_quote k
  have htext :
      ("GROUP BY " ++ String.intercalate ", " (keys.map quote)).toList =
        "GROUP".toList ++ [' '] ++
          ("BY".toList ++ [' '] ++
            [',', ' '].intercalate ((keys.map quote).map String.toList)) := by
    simp
  rw [htext]
  exact (readsFreely_word hword).append_reads hkeys

/-- The direction of an order behind a blank. -/
theorem reads_direction (descending : Bool) :
    Reads (if descending then "DESC" else "ASC").toList
      [.keyword (if descending then "desc" else "asc")] := by
  cases descending with
  | false =>
      have hword : Spells "ASC".toList (.keyword "asc") := spells_keyword "asc" (by decide)
      exact reads_word hword
  | true =>
      have hword : Spells "DESC".toList (.keyword "desc") := spells_keyword "desc" (by decide)
      exact reads_word hword

theorem reads_orderBy (o : RowOrder) :
    Reads (Statement.orderSql o).toList
      (Clause.tokens
        ⟨"order",
          [.keyword "by", .name o.column, .keyword (if o.descending then "desc" else "asc")]⟩) := by
  have hblank : Separates [' '] [] := separates_blank (by decide)
  have hword : Spells "ORDER".toList (.keyword "order") := spells_keyword "order" (by decide)
  have hby : Spells "BY".toList (.keyword "by") := spells_keyword "by" (by decide)
  have hcolumn := (reads_quote o.column).separated hblank (reads_direction o.descending)
  have hwords := (readsFreely_word hword).append (readsFreely_word hby)
  have hall := hwords.append_reads hcolumn
  have htext :
      (Statement.orderSql o).toList =
        "ORDER".toList ++ [' '] ++ ("BY".toList ++ [' ']) ++
          ((quote o.column).toList ++ [' '] ++
            (if o.descending then "DESC" else "ASC").toList) := by
    cases h : o.descending <;> simp [Statement.orderSql, h]
  rw [htext]
  exact hall

theorem reads_limit (n : Nat) :
    Reads ("LIMIT " ++ Decimal.natText n).toList (Clause.tokens ⟨"limit", [.number n]⟩) := by
  have hword : Spells "LIMIT".toList (.keyword "limit") := spells_keyword "limit" (by decide)
  rw [String.toList_append]
  exact (readsFreely_word hword).append_reads (reads_natText n)

theorem reads_offset (n : Nat) :
    Reads ("OFFSET " ++ Decimal.natText n).toList (Clause.tokens ⟨"offset", [.number n]⟩) := by
  have hword : Spells "OFFSET".toList (.keyword "offset") := spells_keyword "offset" (by decide)
  rw [String.toList_append]
  exact (readsFreely_word hword).append_reads (reads_natText n)

end Lexer

/-! ## Statements -/

open Lexer

theorem intercalate_nil_separator
    {α : Type} (l : List (List α)) :
    ([] : List α).intercalate l = l.flatten := by
  induction l with
  | nil => rfl
  | cons a l ih =>
      cases l with
      | nil => simp
      | cons b l =>
          rw [List.intercalate_cons_cons, ih]
          simp

/-- Each line of a statement reads as one clause. -/
theorem Statement.reads_lines
    (s : Statement) (h : s.PlainParameters) :
    List.Forall₂ Reads (s.lines.map String.toList) (s.clauses.map Clause.tokens) := by
  have hgroup :
      List.Forall₂ Reads
        ((if s.groupKeys.isEmpty then []
          else ["GROUP BY " ++ String.intercalate ", " (s.groupKeys.map quote)]).map String.toList)
        ((Statement.groupClause s.groupKeys).map Clause.tokens) := by
    unfold Statement.groupClause
    split
    · exact .nil
    · exact .cons (reads_groupBy s.groupKeys) .nil
  have horder :
      List.Forall₂ Reads
        ((s.order.toList.map Statement.orderSql).map String.toList)
        ((Statement.orderClause s.order).map Clause.tokens) := by
    cases s.order with
    | none => exact .nil
    | some o => exact .cons (reads_orderBy o) .nil
  have hoffset :
      List.Forall₂ Reads
        ((if 0 < s.offset then ["OFFSET " ++ Decimal.natText s.offset.toNat] else []).map
          String.toList)
        ((Statement.offsetClause s.offset).map Clause.tokens) := by
    unfold Statement.offsetClause
    split
    · exact .cons (reads_offset s.offset.toNat) .nil
    · exact .nil
  have hhead :=
    List.Forall₂.cons (reads_select s.projection)
      (.cons (reads_from s.database s.table) (.cons (reads_where s.conjuncts h) .nil))
  have hlimit := List.Forall₂.cons (reads_limit s.limit.toNat) .nil
  simp only [Statement.lines, Statement.clauses, List.map_append]
  exact List.rel_append (List.rel_append (List.rel_append (List.rel_append hhead hgroup) horder)
    hlimit) hoffset

/-- The text of a statement has exactly the tokens of its clauses. -/
theorem tokens?_sql
    (s : Statement) (h : s.PlainParameters) :
    tokens? s.sql = some (s.clauses.flatMap Clause.tokens) := by
  have hbreak : Separates ['\n'] [] := separates_blank (by decide)
  have hreads := reads_intercalate hbreak (s.reads_lines h)
  have htokens :
      ([] : List Token).intercalate (s.clauses.map Clause.tokens) =
        s.clauses.flatMap Clause.tokens := by
    rw [intercalate_nil_separator]
    exact List.flatMap_def.symm
  rw [htokens] at hreads
  have hall := hreads [] trivial
  rw [tokens?, Statement.sql, String.toList_intercalate]
  simpa using hall

end Sql
end AnalyticsQuery
