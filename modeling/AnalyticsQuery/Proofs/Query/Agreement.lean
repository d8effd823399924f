import AnalyticsQuery.Proofs.Query.Parameters
import AnalyticsQuery.Proofs.Query.Rules
import AnalyticsQuery.Proofs.Query.Shape

/-!
# Valid filters fit their placeholders

The checks of a configuration and its compilation each decide by the operator of
a filter, the type of its column and its value.  The placeholder of a filter says
which values the store accepts there, and it finds out only when the query runs.
A filter that passes the checks has a value that its placeholder accepts: a list
of texts for a membership, a number where numbers are compared, a date or a
number where moments are, and one text anywhere else.

* `Filter.Passed`: the ways in which the value of a filter reaches a query.
* `Filter.passed_of_fits`: every filter that fits its column takes one of them.
* `Compilation.predicates_statement`: the predicates of the filters in the text of
  a query.
* `Config.valid_filters_accepted`: every filter of a valid configuration.
-/

namespace AnalyticsQuery

open Sql

/-! ## One filter -/

/-- The ways in which the value of a filter reaches a query: the tokens that a column is compared
with, and the value that is bound for the placeholder among them. -/
inductive Filter.Passed (f : Filter) (parameter : String) : List Token → Binding → Prop
  | texts (member : f.operator.family = .membership) :
      Passed f parameter [.placeholder parameter "Array(String)"] (.texts f.value.texts)
  | text {s : Scalar} (text : String) (value : f.value = .scalar s) :
      Passed f parameter [.placeholder parameter "String"] (.text text)
  | number {s : Scalar} (bound : Binding) (value : f.value = .scalar s) (numeric : s.IsNumeric) :
      Passed f parameter [.placeholder parameter "Float64"] bound
  | moment {s : Scalar} (text : String) (value : f.value = .scalar s)
      (spelled : s.IsNumeric ∨ s.IsDate) :
      Passed f parameter (Layout.moment parameter) (.text text)

namespace Filter

theorem exists_scalar_of_listFits
    {f : Filter} (h : f.ListFits) (hoperator : f.operator.family ≠ .membership) :
    ∃ s, f.value = .scalar s := by
  cases hvalue : f.value with
  | scalar s => exact ⟨s, rfl⟩
  | list items =>
      have hmember := h (by rw [hvalue]; rfl)
      exact absurd (f.operator.family_eq_membership_iff.mpr hmember) hoperator

/-- The value of a filter that fits its column reaches a query in one of the four ways. -/
theorem passed_of_fits
    {f : Filter} {column : Column} (hlist : f.ListFits) (hvalue : f.ValueFits column)
    (parameter : String) :
    f.Passed parameter (Layout.filterValue f.operator column.type parameter)
      (Compilation.binding f.operator column.type f.value) := by
  unfold Layout.filterValue Compilation.binding Operator.binding
  cases hfamily : f.operator.family with
  | membership => exact .texts hfamily
  | pattern =>
      obtain ⟨s, hs⟩ := exists_scalar_of_listFits hlist (by simp [hfamily])
      exact .text _ hs
  | beginning =>
      obtain ⟨s, hs⟩ := exists_scalar_of_listFits hlist (by simp [hfamily])
      exact .text _ hs
  | equality =>
      obtain ⟨s, hs⟩ := exists_scalar_of_listFits hlist (by simp [hfamily])
      have hmember := f.operator.mem_equality_iff.mpr hfamily
      have hcompares := f.operator.mem_comparing_iff.mpr (Or.inl hfamily)
      cases htype : column.type with
      | dateTime =>
          obtain ⟨s, hs, hspelled⟩ := hvalue.dateTime htype hcompares
          exact .moment _ hs hspelled
      | number =>
          obtain ⟨s, hs, hnumeric⟩ := hvalue.number htype hmember
          exact .number _ hs hnumeric
      | string => exact .text _ hs
      | enumeration => exact .text _ hs
  | ordering =>
      have hmember := f.operator.mem_ordering_iff.mpr hfamily
      have hcompares := f.operator.mem_comparing_iff.mpr (Or.inr hfamily)
      by_cases htype : column.type = .dateTime
      · obtain ⟨s, hs, hspelled⟩ := hvalue.dateTime htype hcompares
        rw [htype]
        exact .moment _ hs hspelled
      · obtain ⟨s, hs, hnumeric⟩ := hvalue.ordering htype hmember
        cases hother : column.type with
        | dateTime => exact absurd hother htype
        | _ => exact .number _ hs hnumeric

end Filter

/-! ## The predicate of a filter in the text of a query -/

namespace Layout

/-- A filter compares its column with nothing but its value. -/
theorem mem_condition_iff
    (operator : Operator) (type : ColumnType) (field parameter name word : String) :
    Token.placeholder name word ∈ condition operator type field parameter ↔
      Token.placeholder name word ∈ filterValue operator type parameter := by
  unfold condition
  cases operator <;> simp [Operator.tokens]

/-- Only the value of a filter can stand behind the function that reads moments. -/
theorem filterValue_of_wrapped
    {operator : Operator} {type : ColumnType} {field parameter word : String}
    (h : [.name "parseDateTimeBestEffort", .sign "(", .placeholder parameter word] <:+:
      condition operator type field parameter) :
    filterValue operator type parameter = moment parameter := by
  unfold condition at h
  cases operator <;> cases type <;>
    first
    | rfl
    | simp [filterValue, Operator.family, Operator.tokens, List.infix_cons_iff] at h

end Layout

/-- The conditions of the filters stand behind the three of the scope, in the order of the
filters. -/
theorem Compilation.predicates_statement
    (table : Table) (config : Config) (limit offset : UInt32) :
    ∃ clauses condition,
      readClauses? (statement table config limit offset).sql = some clauses ∧
        Clause.bodies "where" clauses = [condition] ∧
        ∀ i f, config.filters[i]? = some f →
          (Token.conjuncts condition)[3 + i]? = some (Layout.filterCondition table (f, i)) := by
  refine ⟨_, Token.conjoined (Layout.conditions table config),
    readClauses?_statement table config limit offset, ?_, ?_⟩
  · rw [bodies_statement (by decide) (by decide)]
    unfold Statement.offsetClause
    split <;> rfl
  · intro i f hf
    have hscope : (Layout.scopeConditions table).length = 3 := rfl
    rw [conjuncts_conditions, Layout.conditions, List.getElem?_append_right (by omega), hscope,
      Nat.add_sub_cancel_left]
    simp [hf]

/-! ## Valid configurations -/

/-- What the store accepts for a filter: its predicate, and the values that are bound for the
placeholders in it. -/
structure Filter.Accepted
    (f : Filter) (parameter : String) (predicate : List Token) (bound : String → Option Binding) :
    Prop where
  /-- The filter has a placeholder, which is of one of three types. -/
  placeholder : ∃ word ∈ ["Array(String)", "String", "Float64"],
    .placeholder parameter word ∈ predicate
  /-- A list is bound text by text, and its placeholder takes nothing else. -/
  list : ∀ items, f.value = .list items →
    (∀ word, .placeholder parameter word ∈ predicate ↔ word = "Array(String)") ∧
      bound parameter = some (.texts (items.map Scalar.toText))
  texts : ∀ name, .placeholder name "Array(String)" ∈ predicate →
    ∃ l, bound name = some (.texts l)
  text : ∀ name, .placeholder name "String" ∈ predicate → ∃ text, bound name = some (.text text)
  number : ∀ name, .placeholder name "Float64" ∈ predicate →
    ∃ s x, f.value = .scalar s ∧ s.toBinary64? = some x
  moment : ∀ word,
    [.name "parseDateTimeBestEffort", .sign "(", .placeholder parameter word] <:+: predicate →
      ∃ s, f.value = .scalar s ∧ (s.IsNumeric ∨ s.IsDate)

theorem Filter.accepted_of_passed
    {f : Filter} {parameter zone : String} {tokens predicate : List Token} {value : Binding}
    {bound : String → Option Binding}
    (h : f.Passed parameter tokens value) (hvalue : bound parameter = some value)
    (hzone : bound "timezone" = some (.text zone))
    (hmem : ∀ name word, Token.placeholder name word ∈ predicate ↔
      Token.placeholder name word ∈ tokens)
    (hwrapped : ∀ word,
      [.name "parseDateTimeBestEffort", .sign "(", .placeholder parameter word] <:+: predicate →
        tokens = Layout.moment parameter) :
    f.Accepted parameter predicate bound := by
  cases h with
  | texts member =>
      exact
        { placeholder := ⟨"Array(String)", by simp, by simp [hmem]⟩
          list := fun items hitems => by
            simp [hmem, hvalue, hitems, FilterValue.texts, FilterValue.items]
          texts := by simp [hmem, hvalue]
          text := by simp [hmem]
          number := by simp [hmem]
          moment := fun word hword => absurd (hwrapped word hword) (by simp [Layout.moment]) }
  | @text s t hscalar =>
      exact
        { placeholder := ⟨"String", by simp, by simp [hmem]⟩
          list := by simp [hscalar]
          texts := by simp [hmem]
          text := by simp [hmem, hvalue]
          number := by simp [hmem]
          moment := fun word hword => absurd (hwrapped word hword) (by simp [Layout.moment]) }
  | @number s number hscalar hnumeric =>
      obtain ⟨x, hx⟩ := Option.isSome_iff_exists.mp (s.isSome_toBinary64?_iff.mpr hnumeric)
      exact
        { placeholder := ⟨"Float64", by simp, by simp [hmem]⟩
          list := by simp [hscalar]
          texts := by simp [hmem]
          text := by simp [hmem]
          number := fun _ _ => ⟨s, x, hscalar, hx⟩
          moment := fun word hword => absurd (hwrapped word hword) (by simp [Layout.moment]) }
  | @moment s t hscalar hspelled =>
      exact
        { placeholder := ⟨"String", by simp, by simp [hmem, Layout.moment]⟩
          list := by simp [hscalar]
          texts := by simp [hmem, Layout.moment]
          text := by
            intro name hname
            simp only [hmem, Layout.moment, List.mem_cons, Token.placeholder.injEq, reduceCtorEq,
              List.not_mem_nil, and_true, or_false, false_or] at hname
            rcases hname with rfl | rfl
            · exact ⟨t, hvalue⟩
            · exact ⟨zone, hzone⟩
          number := by simp [hmem, Layout.moment]
          moment := fun _ _ => ⟨s, hscalar, hspelled⟩ }

/-- A valid configuration compiles.  The predicate of each of its filters, read off the text of the
query, and the values for its placeholders are accepted together. -/
theorem Config.valid_filters_accepted
    {registry : Registry} {config : Config} (h : config.validate registry = .ok ())
    (scope : Scope) :
    ∃ q clauses condition,
      config.compile registry scope = .ok q ∧
      readClauses? q.sql = some clauses ∧
      Clause.bodies "where" clauses = [condition] ∧
      ∀ i f, config.filters[i]? = some f →
        ∃ predicate, (Token.conjuncts condition)[3 + i]? = some predicate ∧
          f.Accepted (filterParameter i) predicate q.params.get? := by
  obtain ⟨table, htable, hfits⟩ := (config.validate_eq_ok_iff_isValid registry).mp h
  have hcompile :
      config.compile registry scope =
        .ok ⟨Compilation.statement table config scope.limit scope.offset,
          Compilation.bindings table config scope⟩ := by
    rw [Config.compile, htable]
  obtain ⟨clauses, condition, hread, hwhere, hpredicates⟩ :=
    Compilation.predicates_statement table config scope.limit scope.offset
  have hzone :
      (Compilation.bindings table config scope).get? "timezone" = some (.text scope.timezone) :=
    Compilation.get?_bindings_of_mem
      (List.mem_append_left _ (by simp [Compilation.scopeBindings, timezoneParameter]))
  refine ⟨_, clauses, condition, hcompile, hread, hwhere, ?_⟩
  intro i f hf
  obtain ⟨column, hcolumn, -, hlist, hvalue⟩ := hfits.filters f (List.mem_of_getElem? hf)
  have htype : Compilation.columnType table f.field = column.type := by
    simp [Compilation.columnType, hcolumn]
  have hbound :
      (Compilation.bindings table config scope).get? (filterParameter i) =
        some (Compilation.binding f.operator column.type f.value) := by
    rw [Compilation.get?_bindings_filter hf scope, htype]
  refine ⟨_, hpredicates i f hf, ?_⟩
  rw [Layout.filterCondition, htype]
  exact Filter.accepted_of_passed (Filter.passed_of_fits hlist hvalue _) hbound hzone
    (fun name word => Layout.mem_condition_iff ..) (fun word => Layout.filterValue_of_wrapped)

/-- A configuration with a list, a number that is spelled out, and a date. -/
def mixedFilters : Config where
  table := "revenue"
  selects := [⟨"amount", .sum, none⟩]
  filters :=
    [ ⟨"provider", .isIn, .list [.text "a,b", .number (.int 7 (by decide))]⟩,
      ⟨"amount", .eq, .scalar (.text " 12.5 ")⟩,
      ⟨"created_at", .lt, .scalar (.text "2024-01-31")⟩ ]
  groupBy := []
  timeBucket := none

theorem valid_filters_accepted_mixed :
    mixedFilters.validate Schema.registry = .ok () ∧
      ∃ q clauses condition,
        mixedFilters.compile Schema.registry (Scope.of "w" "2024-01-01" "2024-01-31") = .ok q ∧
        readClauses? q.sql = some clauses ∧
        Clause.bodies "where" clauses = [condition] ∧
        (∃ predicate, (Token.conjuncts condition)[3]? = some predicate ∧
          ∀ word, .placeholder "filter_0" word ∈ predicate ↔ word = "Array(String)") ∧
        q.params.get? "filter_0" = some (.texts ["a,b", "7"]) := by
  have hfilters :
      Validation.checkFilters Schema.revenue mixedFilters.filters = .ok () := by
    decide +kernel
  have hvalid : mixedFilters.validate Schema.registry = .ok () :=
    Config.validate_eq_ok_iff.mpr ⟨Schema.revenue, Schema.table?_revenue, rfl, hfilters, rfl⟩
  obtain ⟨q, clauses, condition, hcompile, hread, hwhere, haccepted⟩ :=
    Config.valid_filters_accepted hvalid (Scope.of "w" "2024-01-01" "2024-01-31")
  obtain ⟨predicate, hpredicate, hfirst⟩ := haccepted 0 _ rfl
  obtain ⟨hplaceholder, hbound⟩ := hfirst.list _ rfl
  exact ⟨hvalid, q, clauses, condition, hcompile, hread, hwhere,
    ⟨predicate, hpredicate, hplaceholder⟩, hbound⟩

end AnalyticsQuery
