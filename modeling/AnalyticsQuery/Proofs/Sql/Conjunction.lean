import AnalyticsQuery.Proofs.Sql.Clauses

/-!
# Clauses and conjuncts of query text

The structure of a query is read off its tokens: a token list is cut at the
words that begin a clause, and the condition of a WHERE clause is cut at AND.
Only tokens outside all parentheses cut, so what is found is the top level of
the query and of its condition.

A piece of query text with no such word in it and with its parentheses in pairs
is never cut.  The pieces of a statement are of this kind, whatever names stand
in them, and this gives the results:

* `readClauses?_sql`: what is read off the text of a statement are its clauses.
* `conjuncts_conjoined`: a condition that was joined by AND falls into the
  pieces that were joined.
-/

namespace AnalyticsQuery
namespace Sql

namespace Token

/-- The number of open parentheses behind a token. -/
def depthAfter (depth : Nat) : Token → Nat
  | sign "(" => depth + 1
  | sign ")" => depth - 1
  | _ => depth

/-- The word of a token, if it is one of the given ones. -/
def wordIn? (words : List String) : Token → Option String
  | keyword word => if word ∈ words then some word else none
  | _ => none

/-- Cut a token list at the given words outside all parentheses. -/
def cut (words : List String) : Nat → List Token → List Token × List Clause
  | _, [] => ([], [])
  | depth, t :: rest =>
      let r := cut words (depthAfter depth t) rest
      match t.wordIn? words, depth with
      | some word, 0 => ([], ⟨word, r.1⟩ :: r.2)
      | _, _ => (t :: r.1, r.2)

/-- The words that begin a clause or another query. -/
def clauseWords : List String :=
  [ "select", "from", "prewhere", "where", "group", "having", "order", "limit", "offset",
    "union", "settings", "format" ]

/-- The clauses of a token list, if it begins with one. -/
def clauses? (ts : List Token) : Option (List Clause) :=
  let r := cut clauseWords 0 ts
  if r.1.isEmpty then some r.2 else none

/-- The parts of a condition between the ANDs outside all parentheses. -/
def conjuncts (ts : List Token) : List (List Token) :=
  let r := cut ["and"] 0 ts
  r.1 :: r.2.map Clause.body

/-- Tokens that are none of the words are not cut; the depth behind them may be another one. -/
theorem cut_append_of_unmarked
    {words : List String} {ts : List Token} (h : ∀ t ∈ ts, t.wordIn? words = none)
    (depth : Nat) (rest : List Token) :
    cut words depth (ts ++ rest) =
      (ts ++ (cut words (ts.foldl depthAfter depth) rest).1,
        (cut words (ts.foldl depthAfter depth) rest).2) := by
  induction ts generalizing depth with
  | nil => rfl
  | cons t ts ih =>
      have ht : t.wordIn? words = none := h t (List.mem_cons_self ..)
      have hrest := ih (fun x hx => h x (List.mem_cons_of_mem t hx)) (depthAfter depth t)
      simp only [List.cons_append, cut, ht, hrest, List.foldl_cons]

/-- None of the given words is in the list and every parenthesis has its partner. -/
structure Uncut (words : List String) (ts : List Token) : Prop where
  absent : ∀ word ∈ words, keyword word ∉ ts
  balanced : ∀ depth, ts.foldl depthAfter depth = depth

namespace Uncut

variable {words : List String} {ts : List Token}

theorem wordIn?_eq_none
    (h : Uncut words ts) {t : Token} (ht : t ∈ ts) :
    t.wordIn? words = none := by
  cases t with
  | keyword word =>
      have hword : word ∉ words := fun hmem => h.absent word hmem ht
      simp only [wordIn?, hword, if_false]
  | name text => rfl
  | placeholder name type => rfl
  | number value => rfl
  | sign text => rfl

theorem nil : Uncut words [] where
  absent _ _ ht := by cases ht
  balanced _ := rfl

theorem cons
    {t : Token} (hword : ∀ word ∈ words, t ≠ keyword word)
    (hdepth : ∀ depth, depthAfter depth t = depth)
    (h : Uncut words ts) : Uncut words (t :: ts) where
  absent word hmem ht := by
    rcases List.mem_cons.mp ht with ht | ht
    · exact hword word hmem ht.symm
    · exact h.absent word hmem ht
  balanced depth := by
    rw [List.foldl_cons, hdepth, h.balanced]

theorem cons_name (text : String) (h : Uncut words ts) : Uncut words (.name text :: ts) :=
  h.cons (fun _ _ heq => by cases heq) fun _ => rfl

theorem cons_placeholder
    (name type : String) (h : Uncut words ts) : Uncut words (.placeholder name type :: ts) :=
  h.cons (fun _ _ heq => by cases heq) fun _ => rfl

theorem cons_keyword
    {word : String} (hword : word ∉ words) (h : Uncut words ts) :
    Uncut words (.keyword word :: ts) :=
  h.cons (fun _ hmem heq => hword (by cases heq; exact hmem)) fun _ => rfl

theorem cons_number (value : Nat) (h : Uncut words ts) : Uncut words (.number value :: ts) :=
  h.cons (fun _ _ heq => by cases heq) fun _ => rfl

theorem append
    {us : List Token} (ht : Uncut words ts) (hu : Uncut words us) :
    Uncut words (ts ++ us) where
  absent word hmem hmem' := by
    rcases List.mem_append.mp hmem' with hin | hin
    · exact ht.absent word hmem hin
    · exact hu.absent word hmem hin
  balanced depth := by
    rw [List.foldl_append, ht.balanced, hu.balanced]

/-- Parentheses around an uncut list. -/
theorem parenthesised (h : Uncut words ts) :
    Uncut words (.sign "(" :: (ts ++ [.sign ")"])) where
  absent word hmem ht := by
    have hin : keyword word ∈ ts := by simpa using ht
    exact h.absent word hmem hin
  balanced depth := by
    rw [List.foldl_cons, List.foldl_append, h.balanced]
    rfl

theorem intercalate
    {sep : List Token} (hsep : Uncut words sep)
    {items : List (List Token)} (h : ∀ i ∈ items, Uncut words i) :
    Uncut words (sep.intercalate items) := by
  induction items with
  | nil => exact nil
  | cons a items ih =>
      have ha : Uncut words a := h a (List.mem_cons_self ..)
      have hrest := ih fun x hx => h x (List.mem_cons_of_mem a hx)
      cases items with
      | nil => simpa using ha
      | cons b items =>
          rw [List.intercalate_cons_cons]
          exact (ha.append hsep).append hrest

/-- A list that is uncut for some words is uncut for fewer. -/
theorem mono
    (h : Uncut words ts) {fewer : List String} (hsub : fewer ⊆ words) :
    Uncut fewer ts where
  absent word hmem := h.absent word (hsub hmem)
  balanced := h.balanced

/-- An uncut piece goes to the part that the text behind it begins with. -/
theorem cut_append
    (h : Uncut words ts) (depth : Nat) (rest : List Token) :
    cut words depth (ts ++ rest) =
      (ts ++ (cut words depth rest).1, (cut words depth rest).2) := by
  rw [cut_append_of_unmarked (fun _ => h.wordIn?_eq_none), h.balanced]

end Uncut

theorem cut_keyword
    {words : List String} {word : String} (hword : word ∈ words)
    (rest : List Token) :
    cut words 0 (.keyword word :: rest) =
      ([], ⟨word, (cut words 0 rest).1⟩ :: (cut words 0 rest).2) := by
  have hdepth : depthAfter 0 (.keyword word) = 0 := rfl
  have hin : wordIn? words (.keyword word) = some word := by
    simp only [wordIn?, hword, if_true]
  simp only [cut, hdepth, hin]

/-- Clauses in a row are cut apart again. -/
theorem cut_clauses
    {words : List String} {cs : List Clause}
    (hword : ∀ c ∈ cs, c.word ∈ words)
    (hbody : ∀ c ∈ cs, Uncut words c.body) :
    cut words 0 (cs.flatMap Clause.tokens) = ([], cs) := by
  induction cs with
  | nil => rfl
  | cons c cs ih =>
      have hc := hbody c (List.mem_cons_self ..)
      have hrest :=
        ih (fun d hd => hword d (List.mem_cons_of_mem c hd))
          fun d hd => hbody d (List.mem_cons_of_mem c hd)
      rw [List.flatMap_cons, Clause.tokens, List.cons_append,
        cut_keyword (hword c (List.mem_cons_self ..)), hc.cut_append, hrest, List.append_nil]

/-- The pieces that are joined by AND, as clauses that begin with AND. -/
theorem conjoined_cons
    (a : List Token) (items : List (List Token)) :
    conjoined (a :: items) =
      a ++ (items.map fun i => (⟨"and", i⟩ : Clause)).flatMap Clause.tokens := by
  induction items generalizing a with
  | nil => simp [conjoined]
  | cons b items ih =>
      have hb := ih b
      rw [conjoined] at hb ⊢
      rw [List.intercalate_cons_cons, hb]
      simp [Clause.tokens]

/-- A condition that was joined by AND falls into the pieces that were joined. -/
theorem conjuncts_conjoined
    {items : List (List Token)} (hne : items ≠ [])
    (h : ∀ i ∈ items, Uncut ["and"] i) :
    conjuncts (conjoined items) = items := by
  cases items with
  | nil => exact absurd rfl hne
  | cons a items =>
      have ha := h a (List.mem_cons_self ..)
      have hrest :
          cut ["and"] 0 ((items.map fun i => (⟨"and", i⟩ : Clause)).flatMap Clause.tokens) =
            ([], items.map fun i => ⟨"and", i⟩) := by
        apply cut_clauses
        · intro c hc
          obtain ⟨i, -, rfl⟩ := List.mem_map.mp hc
          exact List.mem_singleton_self _
        · intro c hc
          obtain ⟨i, hi, rfl⟩ := List.mem_map.mp hc
          exact h i (List.mem_cons_of_mem a hi)
      rw [conjuncts, conjoined_cons, ha.cut_append, hrest]
      simp [Function.comp_def]

/-! ## The pieces of a statement -/

/-- The words that cut a query or its condition. -/
def cuttingWords : List String :=
  "and" :: clauseWords

theorem uncut_operator (o : Operator) : Uncut cuttingWords o.tokens := by
  cases o <;> exact ⟨by decide, fun _ => rfl⟩

theorem uncut_comma : Uncut cuttingWords [.sign ","] :=
  Uncut.nil.cons (fun _ _ heq => by cases heq) fun _ => rfl

theorem uncut_timezone :
    Uncut cuttingWords [.sign ",", .placeholder "timezone" "String"] :=
  uncut_comma.append (Uncut.nil.cons_placeholder "timezone" "String")

theorem uncut_operand (o : Operand) : Uncut cuttingWords o.tokens := by
  cases o with
  | value p => exact Uncut.nil.cons_placeholder p.name p.type.text
  | moment name =>
      have hargs := uncut_timezone.cons_placeholder name "String"
      exact hargs.parenthesised.cons_name _

theorem uncut_comparison (c : Comparison) : Uncut cuttingWords c.tokens := by
  have hoperand := uncut_operand c.operand
  have hcolumn : Uncut cuttingWords [.name c.column] := Uncut.nil.cons_name _
  by_cases ho : c.operator = .startsWith
  · have hargs := (uncut_comma.append hoperand).cons_name c.column
    have hcall := hargs.parenthesised.cons_name "startsWith"
    simpa [Comparison.tokens, ho] using hcall
  · rw [Comparison.tokens, if_neg ho]
    exact (hcolumn.append (uncut_operator c.operator)).append hoperand

theorem uncut_as (name : String) : Uncut cuttingWords [.keyword "as", .name name] :=
  (Uncut.nil.cons_name name).cons_keyword (by decide)

theorem uncut_argument (column : Option String) :
    Uncut cuttingWords (column.map Token.name).toList := by
  cases column with
  | none => exact Uncut.nil
  | some column => exact Uncut.nil.cons_name column

theorem uncut_projection (p : Projection) : Uncut cuttingWords p.tokens := by
  cases p with
  | bucket unit column =>
      have hargs := uncut_timezone.cons_name column
      exact (hargs.parenthesised.cons_name unit.function).append (uncut_as "date")
  | key column => exact Uncut.nil.cons_name column
  | aggregate function column name =>
      have hcall := (uncut_argument column).parenthesised.cons_name function.token
      have hall := hcall.append (uncut_as name)
      simpa [Projection.tokens] using hall

/-- A list of uncut pieces, with commas between them. -/
theorem uncut_listed
    {α : Type} {tokens : α → List Token}
    (h : ∀ a, Uncut cuttingWords (tokens a)) (l : List α) :
    Uncut cuttingWords (listed (l.map tokens)) := by
  apply uncut_comma.intercalate
  intro i hi
  obtain ⟨a, -, rfl⟩ := List.mem_map.mp hi
  exact h a

/-- The comparisons of a statement fall out of its condition again. -/
theorem conjuncts_comparisons
    {l : List Comparison} (hne : l ≠ []) :
    conjuncts (conjoined (l.map Comparison.tokens)) = l.map Comparison.tokens := by
  apply conjuncts_conjoined
  · simpa using hne
  · intro i hi
    obtain ⟨c, -, rfl⟩ := List.mem_map.mp hi
    exact (uncut_comparison c).mono (by decide)

end Token

/-! ## The clauses of a statement -/

open Token

/-- A clause that begins with a clause word and has no other one in it. -/
structure Clause.Closed (c : Clause) : Prop where
  word : c.word ∈ clauseWords
  body : Uncut clauseWords c.body

theorem Clause.Closed.of_cuttingWords
    {word : String} {body : List Token}
    (hword : word ∈ clauseWords) (hbody : Uncut cuttingWords body) :
    Clause.Closed ⟨word, body⟩ where
  word := hword
  body := hbody.mono (List.subset_cons_self _ _)

theorem uncut_condition (l : List Comparison) :
    Uncut clauseWords (conjoined (l.map Comparison.tokens)) := by
  have hand : Uncut clauseWords [.keyword "and"] := Uncut.nil.cons_keyword (by decide)
  apply hand.intercalate
  intro i hi
  obtain ⟨c, -, rfl⟩ := List.mem_map.mp hi
  exact (uncut_comparison c).mono (List.subset_cons_self _ _)

theorem Statement.word_of_mem_groupClause
    {keys : List String} {c : Clause} (hc : c ∈ Statement.groupClause keys) :
    c.word = "group" := by
  unfold Statement.groupClause at hc
  split at hc
  · cases hc
  · rw [List.mem_singleton.mp hc]

theorem Statement.word_of_mem_orderClause
    {order : Option RowOrder} {c : Clause} (hc : c ∈ Statement.orderClause order) :
    c.word = "order" := by
  obtain ⟨o, -, rfl⟩ := List.mem_map.mp hc
  rfl

theorem Statement.word_of_mem_offsetClause
    {offset : UInt32} {c : Clause} (hc : c ∈ Statement.offsetClause offset) :
    c.word = "offset" := by
  unfold Statement.offsetClause at hc
  split at hc
  · rw [List.mem_singleton.mp hc]
  · cases hc

theorem Statement.closed_of_mem_groupClause
    {keys : List String} {c : Clause} (hc : c ∈ Statement.groupClause keys) :
    c.Closed := by
  have hnames : ∀ k : String, Uncut cuttingWords [.name k] := fun k => Uncut.nil.cons_name k
  unfold Statement.groupClause at hc
  split at hc
  · cases hc
  · rw [List.mem_singleton.mp hc]
    exact .of_cuttingWords (by decide) ((uncut_listed hnames keys).cons_keyword (by decide))

theorem Statement.closed_of_mem_orderClause
    {order : Option RowOrder} {c : Clause} (hc : c ∈ Statement.orderClause order) :
    c.Closed := by
  obtain ⟨o, -, rfl⟩ := List.mem_map.mp hc
  have hdirection :
      Uncut cuttingWords [.keyword (if o.descending then "desc" else "asc")] := by
    cases o.descending <;> exact Uncut.nil.cons_keyword (by decide)
  exact .of_cuttingWords (by decide) ((hdirection.cons_name o.column).cons_keyword (by decide))

theorem Statement.closed_of_mem_offsetClause
    {offset : UInt32} {c : Clause} (hc : c ∈ Statement.offsetClause offset) :
    c.Closed := by
  unfold Statement.offsetClause at hc
  split at hc
  · rw [List.mem_singleton.mp hc]
    exact .of_cuttingWords (by decide) (Uncut.nil.cons_number _)
  · cases hc

theorem Statement.closed_of_mem_clauses
    (s : Statement) {c : Clause} (hc : c ∈ s.clauses) :
    c.Closed := by
  simp only [Statement.clauses, List.mem_append, List.mem_cons, List.not_mem_nil, or_false] at hc
  rcases hc with ((((rfl | rfl | rfl) | hgroup) | horder) | rfl) | hoffset
  · exact .of_cuttingWords (by decide) (uncut_listed uncut_projection s.projection)
  · have htable : Uncut cuttingWords [.name s.table] := Uncut.nil.cons_name _
    have hdot : Uncut cuttingWords [.sign ".", .name s.table] :=
      htable.cons (fun _ _ heq => by cases heq) fun _ => rfl
    exact .of_cuttingWords (by decide) (hdot.cons_name s.database)
  · have hwhere : "where" ∈ clauseWords := by decide
    exact ⟨hwhere, uncut_condition s.conjuncts⟩
  · exact Statement.closed_of_mem_groupClause hgroup
  · exact Statement.closed_of_mem_orderClause horder
  · exact .of_cuttingWords (by decide) (Uncut.nil.cons_number _)
  · exact Statement.closed_of_mem_offsetClause hoffset

/-- The clauses of a query text. -/
def readClauses? (sql : String) : Option (List Clause) :=
  (tokens? sql).bind clauses?

/-- What is read off the text of a statement are its clauses. -/
theorem readClauses?_sql
    (s : Statement) (h : s.PlainParameters) :
    readClauses? s.sql = some s.clauses := by
  have hcut : cut clauseWords 0 (s.clauses.flatMap Clause.tokens) = ([], s.clauses) :=
    cut_clauses (fun _ hc => (s.closed_of_mem_clauses hc).word)
      fun _ hc => (s.closed_of_mem_clauses hc).body
  rw [readClauses?, tokens?_sql s h, Option.bind_some, clauses?, hcut]
  rfl

/-- What stands behind a clause word, clause by clause. -/
def Clause.bodies (word : String) (clauses : List Clause) : List (List Token) :=
  (clauses.filter fun c => c.word == word).map Clause.body

theorem Clause.bodies_append (word : String) (cs ds : List Clause) :
    Clause.bodies word (cs ++ ds) = Clause.bodies word cs ++ Clause.bodies word ds := by
  simp [Clause.bodies]

theorem Clause.bodies_eq_nil
    {word : String} {cs : List Clause} (h : ∀ c ∈ cs, c.word ≠ word) :
    Clause.bodies word cs = [] := by
  have hnone : (cs.filter fun c => c.word == word) = [] := by
    rw [List.filter_eq_nil_iff]
    intro c hc
    simpa using h c hc
  rw [Clause.bodies, hnone, List.map_nil]

end Sql
end AnalyticsQuery
