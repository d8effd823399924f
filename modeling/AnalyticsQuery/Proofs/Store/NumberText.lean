import AnalyticsQuery.Proofs.Decimal.Literal
import AnalyticsQuery.Proofs.Query.Agreement
import AnalyticsQuery.Proofs.Query.FilterMeaning
import AnalyticsQuery.Proofs.Store.ReadBack

/-!
# Numbers as the store is given them

The store reads the value of a number placeholder as a number literal and accepts
nothing around it.  A filter that orders numbers binds the number that its value
spells, so what is sent is a literal.  A filter that compares for equality binds
the text of its value.  That is a literal too, unless the text has blanks at its
ends: the checks look past them, and nothing takes them away.

* `Scalar.exists_numberBinding`: what is numeric is bound as a number.
* `Scalar.isLiteral_text_iff`: a numeric text is a literal when it has no blanks
  at its ends.
* `Config.number_sent_as_literal_iff`: the number placeholders of every filter of
  a valid configuration.
-/

namespace AnalyticsQuery

open Sql

/-! ## Escaped literals -/

namespace Store

theorem escapedChar_of_isNumeralChar {c : Char} (h : Decimal.isNumeralChar c = true) :
    escapedChar c = [c] := by
  have hne : c ≠ '\\' ∧ c ≠ '\t' ∧ c ≠ '\n' ∧ c ≠ '\r' := by
    refine ⟨?_, ?_, ?_, ?_⟩ <;> rintro rfl <;> cases h
  obtain ⟨hback, htab, hline, hreturn⟩ := hne
  simp [escapedChar, hback, htab, hline, hreturn]

/-- Nothing in a literal has to be escaped. -/
theorem flatMap_escapedChar_of_isLiteral {cs : List Char} (h : Decimal.IsLiteral cs) :
    cs.flatMap escapedChar = cs := by
  have hchars : ∀ c ∈ cs, escapedChar c = [c] :=
    fun c hc => escapedChar_of_isNumeralChar (h.isNumeralChar c hc)
  rw [List.flatMap_congr hchars, List.flatMap_singleton']

/-- A character that belongs to no literal stays one, or a backslash comes in front of it. -/
theorem exists_mem_escapedChar {c : Char} (h : Decimal.isNumeralChar c = false) :
    ∃ d ∈ escapedChar c, Decimal.isNumeralChar d = false := by
  rcases escapes_text.written c with ⟨hself, -, -⟩ | ⟨d, hescaped, -⟩
  · exact ⟨c, by simp [hself], h⟩
  · exact ⟨'\\', by simp [hescaped], by decide⟩

theorem not_isLiteral_of_mem
    {cs : List Char} {c : Char} (hc : c ∈ cs) (h : Decimal.isNumeralChar c = false) :
    ¬ Decimal.IsLiteral (cs.flatMap escapedChar) := by
  intro hliteral
  obtain ⟨d, hd, hnot⟩ := exists_mem_escapedChar h
  have hmem : d ∈ cs.flatMap escapedChar := List.mem_flatMap.mpr ⟨c, hc, hd⟩
  rw [hliteral.isNumeralChar d hmem] at hnot
  cases hnot

end Store

/-! ## Blanks at the ends of a text -/

theorem Text.isBlankChar_of_isNumeralChar {c : Char} (h : Decimal.isNumeralChar c = true) :
    isBlankChar c = false := by
  rw [Decimal.isNumeralChar, Bool.or_eq_true, decide_eq_true_eq] at h
  rcases h with hdigit | hother
  · exact isBlankChar_of_isDigit hdigit
  · have hall : ∀ d ∈ ['-', '+', '.', 'e', 'E'], isBlankChar d = false := by
      simp [isBlankChar, isBlankPoint]
    exact hall c hother

/-! ## What is numeric -/

theorem Decimal.range_of_readInt64? {cs : List Char} {n : Int} (h : readInt64? cs = some n) :
    -9223372036854775808 ≤ n ∧ n < 9223372036854775808 := by
  simp only [readInt64?] at h
  split at h
  · cases h
  · obtain ⟨hrange, heq⟩ := Option.ite_none_right_eq_some.mp h
    cases heq
    exact hrange

/-- The text of a number is sent as it stands. -/
theorem Number.isLiteral_text (n : Number) :
    Decimal.IsLiteral (Store.encodeChars (.text n.text)) := by
  rw [Store.encodeChars, text, String.toList_ofList,
    Store.flatMap_escapedChar_of_isLiteral n.isLiteral_chars]
  exact n.isLiteral_chars

namespace Scalar

/-- A numeric text is a literal when it has no blanks at its ends. -/
theorem isLiteral_text_iff {s : String} (h : (text s).IsNumeric) :
    Decimal.IsLiteral (Store.encodeChars (.text s)) ↔ trimmedChars s = s.toList := by
  obtain ⟨x, hx⟩ := h
  have htrimmed := Decimal.isLiteral_of_readBinary64? hx
  constructor
  · intro hliteral
    refine Text.stripWhere_eq_self fun c hc => Text.isBlankChar_of_isNumeralChar ?_
    by_contra hother
    exact Store.not_isLiteral_of_mem hc (Bool.not_eq_true _ ▸ hother) hliteral
  · intro heq
    rw [heq] at htrimmed
    rw [Store.encodeChars, Store.flatMap_escapedChar_of_isLiteral htrimmed]
    exact htrimmed

/-- What is numeric is bound as a number where numbers are ordered. -/
theorem exists_numberBinding {s : Scalar} (h : s.IsNumeric) :
    ∃ n, s.numberBinding = .number n := by
  cases s with
  | number n => exact ⟨n, rfl⟩
  | text t =>
      obtain ⟨x, hx⟩ := h
      have hspelled : ∃ n, spelledNumber? t = some n := by
        unfold spelledNumber?
        cases hint : Decimal.readInt64? (trimmedChars t) with
        | none => exact ⟨.float x, by simp [hx]⟩
        | some i =>
            have hrange := Decimal.range_of_readInt64? hint
            exact ⟨_, dif_pos ⟨hrange.1, by omega⟩⟩
      obtain ⟨n, hn⟩ := hspelled
      exact ⟨n, by simp [numberBinding, hn]⟩

end Scalar

/-! ## Number placeholders -/

theorem Layout.float64_mem_filterValue_iff
    (operator : Operator) (type : ColumnType) (parameter name : String) :
    Token.placeholder name "Float64" ∈ filterValue operator type parameter ↔
      name = parameter ∧
        (operator.family = .ordering ∧ type ≠ .dateTime ∨
          operator.family = .equality ∧ type = .number) := by
  unfold filterValue
  cases operator.family <;> cases type <;> simp [moment]

namespace Compilation

theorem binding_of_ordering
    {operator : Operator} {type : ColumnType} (hfamily : operator.family = .ordering)
    (htype : type ≠ .dateTime) (s : Scalar) :
    binding operator type (.scalar s) = s.numberBinding := by
  unfold binding Operator.binding
  cases type with
  | dateTime => exact absurd rfl htype
  | _ => simp [hfamily]

theorem binding_of_equality
    {operator : Operator} (hfamily : operator.family = .equality) (type : ColumnType)
    (s : Scalar) :
    binding operator type (.scalar s) = .text s.toText := by
  unfold binding Operator.binding
  cases type <;> simp [hfamily, FilterValue.toText_scalar]

end Compilation

namespace Filter

/-- A filter compares for equality with a text that has blanks at its ends. -/
def KeepsBlanks (f : Filter) : Prop :=
  (f.operator = .eq ∨ f.operator = .ne) ∧
    ∃ s, f.value = .scalar (.text s) ∧ Scalar.trimmedChars s ≠ s.toList

/-- What a filter that fits its column binds for a number placeholder. -/
theorem isLiteral_binding_iff
    {f : Filter} {column : Column} (hvalue : f.ValueFits column)
    (hplaceholder : f.operator.family = .ordering ∧ column.type ≠ .dateTime ∨
      f.operator.family = .equality ∧ column.type = .number) :
    Decimal.IsLiteral (Store.encodeChars (Compilation.binding f.operator column.type f.value)) ↔
      ¬ f.KeepsBlanks := by
  rcases hplaceholder with ⟨hordering, htype⟩ | ⟨hequality, htype⟩
  · obtain ⟨s, hs, hnumeric⟩ :=
      hvalue.ordering htype (f.operator.mem_ordering_iff.mpr hordering)
    obtain ⟨n, hn⟩ := s.exists_numberBinding hnumeric
    rw [hs, Compilation.binding_of_ordering hordering htype, hn]
    refine iff_of_true n.isLiteral_chars ?_
    rintro ⟨hoperator, -⟩
    rcases hoperator with heq | heq <;> rw [heq] at hordering <;> cases hordering
  · have hmember := f.operator.mem_equality_iff.mpr hequality
    obtain ⟨s, hs, hnumeric⟩ := hvalue.number htype hmember
    rw [hs, Compilation.binding_of_equality hequality]
    cases s with
    | number n => exact iff_of_true n.isLiteral_text (by simp [KeepsBlanks, hs])
    | text t =>
        have hoperator : f.operator = .eq ∨ f.operator = .ne := by simpa using hmember
        have hblanks : f.KeepsBlanks ↔ Scalar.trimmedChars t ≠ t.toList := by
          simp [KeepsBlanks, hs, hoperator]
        rw [hblanks, not_not]
        exact Scalar.isLiteral_text_iff hnumeric

end Filter

/-- Every number placeholder of a valid configuration is given a number literal, with the one
exception of an equality with a text that has blanks at its ends: there the blanks are sent with it,
or what they are escaped to. -/
theorem Config.number_sent_as_literal_iff
    {registry : Registry} {config : Config} (h : config.validate registry = .ok ())
    (scope : Scope) :
    ∃ q clauses condition,
      config.compile registry scope = .ok q ∧
      readClauses? q.sql = some clauses ∧
      Clause.bodies "where" clauses = [condition] ∧
      ∀ i f, config.filters[i]? = some f →
        ∃ predicate, (Token.conjuncts condition)[3 + i]? = some predicate ∧
          ∀ name, .placeholder name "Float64" ∈ predicate →
            ∃ value, q.params.get? name = some value ∧
              (Decimal.IsLiteral (Store.encode value).toList ↔ ¬ f.KeepsBlanks) := by
  obtain ⟨table, htable, hfits⟩ := (config.validate_eq_ok_iff_isValid registry).mp h
  obtain ⟨clauses, condition, hread, hwhere, hpredicates⟩ :=
    Compilation.predicates_statement table config scope.limit scope.offset
  refine ⟨_, clauses, condition, Config.compile_of_table? htable scope, hread, hwhere, ?_⟩
  intro i f hf
  refine ⟨_, hpredicates i f hf, ?_⟩
  intro name hname
  obtain ⟨column, hcolumn, -, -, hvalue⟩ := hfits.filters f (List.mem_of_getElem? hf)
  have htype : Compilation.columnType table f.field = column.type := by
    simp [Compilation.columnType, hcolumn]
  rw [Layout.filterCondition, Layout.mem_condition_iff, htype,
    Layout.float64_mem_filterValue_iff] at hname
  obtain ⟨rfl, hplaceholder⟩ := hname
  refine ⟨_, Compilation.get?_bindings_filter hf scope, ?_⟩
  rw [htype, Store.encode, String.toList_ofList]
  exact f.isLiteral_binding_iff hvalue hplaceholder

/-- Payments of one amount, which is spelled with a blank in front of it and a tab behind. -/
def paddedAmount : Config where
  table := "revenue"
  selects := [⟨"amount", .sum, none⟩]
  filters :=
    [ ⟨"amount", .eq, .scalar (.text " 12.5\t")⟩,
      ⟨"amount", .gte, .scalar (.text " 12.5\t")⟩ ]
  groupBy := []
  timeBucket := none

theorem validate_paddedAmount : paddedAmount.validate Schema.registry = .ok () := by
  have hfilters : Validation.checkFilters Schema.revenue paddedAmount.filters = .ok () := by
    decide +kernel
  exact Config.validate_eq_ok_iff.mpr
    ⟨Schema.revenue, Schema.table?_revenue, rfl, hfilters, rfl⟩

theorem keepsBlanks_paddedAmount : Filter.KeepsBlanks ⟨"amount", .eq, .scalar (.text " 12.5\t")⟩ :=
  ⟨Or.inl rfl, " 12.5\t", rfl, by decide⟩

/-- Both filters of the configuration are given number placeholders. -/
theorem conjuncts_paddedAmount :
    ∃ q clauses condition,
      paddedAmount.compile Schema.registry (Scope.of "w" "2024-01-01" "2024-01-31") = .ok q ∧
      readClauses? q.sql = some clauses ∧
      Clause.bodies "where" clauses = [condition] ∧
      (Token.conjuncts condition)[3]? =
        some [.name "amount", .sign "=", .placeholder "filter_0" "Float64"] ∧
      (Token.conjuncts condition)[4]? =
        some [.name "amount", .sign ">=", .placeholder "filter_1" "Float64"] ∧
      q.params.get? "filter_0" = some (.text " 12.5\t") := by
  have htable : Schema.registry.table? paddedAmount.table = some Schema.revenue :=
    Schema.table?_revenue
  obtain ⟨clauses, condition, hread, hwhere, hpredicates⟩ :=
    Compilation.predicates_statement Schema.revenue paddedAmount Limits.defaultQueryLimit 0
  exact ⟨_, clauses, condition, Config.compile_of_table? htable _, hread, hwhere,
    hpredicates 0 _ rfl, hpredicates 1 _ rfl, rfl⟩

/-- Of the two filters on one text, the one that orders numbers sends a literal. -/
theorem number_sent_as_literal_paddedAmount :
    paddedAmount.validate Schema.registry = .ok () ∧
      ∃ q, paddedAmount.compile Schema.registry (Scope.of "w" "2024-01-01" "2024-01-31") = .ok q ∧
        (∃ value, q.params.get? "filter_0" = some value ∧
          ¬ Decimal.IsLiteral (Store.encode value).toList) ∧
        ∃ value, q.params.get? "filter_1" = some value ∧
          Decimal.IsLiteral (Store.encode value).toList := by
  obtain ⟨q, clauses, condition, hcompile, hread, hwhere, hequal, hordered, -⟩ :=
    conjuncts_paddedAmount
  obtain ⟨q', clauses', condition', hcompile', hread', hwhere', hliteral⟩ :=
    Config.number_sent_as_literal_iff validate_paddedAmount
      (Scope.of "w" "2024-01-01" "2024-01-31")
  -- A configuration has one query, and its text is read in one way.
  obtain rfl : q = q' := Except.ok.inj (hcompile.symm.trans hcompile')
  obtain rfl : clauses = clauses' := Option.some.inj (hread.symm.trans hread')
  obtain rfl : condition = condition' := List.singleton_inj.mp (hwhere.symm.trans hwhere')
  refine ⟨validate_paddedAmount, q, hcompile, ?_, ?_⟩
  · obtain ⟨predicate, hpredicate, hsent⟩ := hliteral 0 _ rfl
    obtain rfl := Option.some.inj (hequal.symm.trans hpredicate)
    obtain ⟨value, hbound, hiff⟩ := hsent "filter_0" (by simp)
    exact ⟨value, hbound, fun h => hiff.mp h keepsBlanks_paddedAmount⟩
  · obtain ⟨predicate, hpredicate, hsent⟩ := hliteral 1 _ rfl
    obtain rfl := Option.some.inj (hordered.symm.trans hpredicate)
    obtain ⟨value, hbound, hiff⟩ := hsent "filter_1" (by simp)
    refine ⟨value, hbound, hiff.mpr ?_⟩
    rintro ⟨hoperator, -⟩
    simp at hoperator

/-- What the checks take for a number is sent with a blank in front of it and an escape behind,
which no number literal has. -/
theorem number_sent_with_blanks :
    paddedAmount.validate Schema.registry = .ok () ∧
      ∃ q clauses condition,
        paddedAmount.compile Schema.registry (Scope.of "w" "2024-01-01" "2024-01-31") = .ok q ∧
        readClauses? q.sql = some clauses ∧
        Clause.bodies "where" clauses = [condition] ∧
        (Token.conjuncts condition)[3]? =
          some [.name "amount", .sign "=", .placeholder "filter_0" "Float64"] ∧
        ∃ value, q.params.get? "filter_0" = some value ∧
          Store.encode value = " 12.5\\t" ∧ ¬ Decimal.IsLiteral (Store.encode value).toList := by
  obtain ⟨q, clauses, condition, hcompile, hread, hwhere, hequal, -, hbound⟩ :=
    conjuncts_paddedAmount
  have hsent : Store.encode (.text " 12.5\t") = " 12.5\\t" := by decide
  refine ⟨validate_paddedAmount, q, clauses, condition, hcompile, hread, hwhere, hequal,
    .text " 12.5\t", hbound, hsent, ?_⟩
  intro hliteral
  have hblank := hliteral.isNumeralChar ' ' (by rw [hsent]; decide)
  revert hblank
  decide

end AnalyticsQuery
