import AnalyticsQuery.Proofs.Query.Layout
import AnalyticsQuery.Proofs.Sql.Condition
import AnalyticsQuery.Schema.Builtin

/-!
# The meaning of compiled filters

A filter on a text column asks something of the texts in that column: to be the
text of its value or another one, to hold it or not, to begin with it, to be one
of several texts or none of them.  This meaning is said without any query text.

A filter that passes the check of its table is compiled to a condition and a
bound value.  The condition, read back from its text, is true of a row exactly
when the text in the column is what the filter asks for.

* `value_of_checkFilter`: only membership takes a list of values.
* `holds?_compiled_filter`: compiled filters keep their meaning.
-/

namespace AnalyticsQuery

/-- What a filter on a text column asks of the text of a row; an order is of numbers and moments. -/
def Filter.Admits (f : Filter) (x : String) : Prop :=
  match f.operator, f.value with
  | .eq, .scalar v => x = v.toText
  | .ne, .scalar v => x ≠ v.toText
  | .contains, .scalar v => v.toText.toList <:+: x.toList
  | .notContains, .scalar v => ¬ v.toText.toList <:+: x.toList
  | .startsWith, .scalar v => v.toText.toList <+: x.toList
  | .isIn, v => ∃ item ∈ v.items, x = item.toText
  | .notIn, v => ∀ item ∈ v.items, x ≠ item.toText
  | _, _ => False

theorem FilterValue.toText_scalar (v : Scalar) : (FilterValue.scalar v).toText = v.toText :=
  String.intercalate_singleton

theorem FilterValue.contains_texts (v : FilterValue) (x : String) :
    v.texts.contains x = true ↔ ∃ item ∈ v.items, x = item.toText := by
  simp [FilterValue.texts, eq_comm]

/-- An operator that compares with one value is given one. -/
theorem Validation.value_of_checkFilter
    {table : Table} {f : Filter} (h : checkFilter table f = .ok ())
    (hoperator : f.operator.family ≠ .membership) :
    ∃ v, f.value = .scalar v := by
  unfold checkFilter at h
  split at h
  · cases h
  · split at h
    · cases h
    · split at h
      · cases h
      · rename_i hlist
        cases hvalue : f.value with
        | scalar v => exact ⟨v, rfl⟩
        | list items =>
            rw [hvalue] at hlist
            have hfamily : f.operator.family = .membership := by
              simpa [FilterValue.isList] using hlist
            exact absurd hfamily hoperator

namespace Compilation

open Sql

theorem tokens?_comparison (table : Table) (f : Filter) (i : Nat) :
    tokens? (comparison table (filterParameter i) f).sql =
      some (Layout.filterCondition table (f, i)) := by
  have hplain :
      ∀ c ∈ (comparison table (filterParameter i) f).operand.parameter.toList,
        isWordChar c = true := by
    intro c hc
    rw [comparison, parameter_operand] at hc
    exact isWordChar_of_mem_filterParameter hc
  have hread := Lexer.reads_comparison _ hplain [] trivial
  rw [tokens_comparison table (f, i)] at hread
  simpa [tokens?] using hread

/-- Outside time columns the value is bound as the operator has it. -/
theorem binding_of_ne_dateTime
    {type : ColumnType} (h : type ≠ .dateTime) (operator : Operator) (value : FilterValue) :
    binding operator type value = operator.binding value := by
  cases type with
  | dateTime => exact absurd rfl h
  | string => cases operator <;> rfl
  | number => cases operator <;> rfl
  | enumeration => cases operator <;> rfl

/-- A text column is compared with a text, or with a list of them. -/
theorem filterValue_of_text
    {operator : Operator} {type : ColumnType}
    (htype : type = .string ∨ type = .enumeration) (hoperator : operator.family ≠ .ordering)
    (parameter : String) :
    Layout.filterValue operator type parameter =
      [.placeholder parameter
        (if operator.family = .membership then "Array(String)" else "String")] := by
  rcases htype with rfl | rfl <;> cases operator <;>
    first | rfl | exact absurd rfl hoperator

end Compilation

open Sql

/-- The truth of a condition on a text column is what its operator and value ask for. -/
theorem holds?_condition
    {operator : Operator} {type : ColumnType} {value : FilterValue} {field parameter x : String}
    (htype : type = .string ∨ type = .enumeration) (hoperator : operator.family ≠ .ordering)
    (hvalue : operator.family ≠ .membership → ∃ v, value = .scalar v)
    {row : String → Option String} (hrow : row field = some x)
    {params : String → Option Binding} (hparams : params parameter = some (operator.binding value)) :
    ∃ truth, holds? row params (Layout.condition operator type field parameter) = some truth ∧
      (truth = true ↔ (Filter.mk field operator value).Admits x) := by
  rw [Layout.condition, Compilation.filterValue_of_text htype hoperator]
  cases operator with
  | eq =>
      obtain ⟨v, rfl⟩ := hvalue (by decide)
      refine ⟨_, withText_eq hrow hparams _, ?_⟩
      rw [FilterValue.toText_scalar]
      exact beq_iff_eq
  | ne =>
      obtain ⟨v, rfl⟩ := hvalue (by decide)
      refine ⟨_, withText_eq hrow hparams _, ?_⟩
      rw [FilterValue.toText_scalar]
      exact bne_iff_ne
  | gt => exact absurd rfl hoperator
  | lt => exact absurd rfl hoperator
  | gte => exact absurd rfl hoperator
  | lte => exact absurd rfl hoperator
  | contains =>
      obtain ⟨v, rfl⟩ := hvalue (by decide)
      refine ⟨_, withText_eq hrow hparams _, ?_⟩
      rw [FilterValue.toText_scalar]
      exact like_containing v.toText x
  | notContains =>
      obtain ⟨v, rfl⟩ := hvalue (by decide)
      refine ⟨_, withText_eq hrow hparams _, ?_⟩
      rw [FilterValue.toText_scalar, Bool.not_eq_true', ← Bool.not_eq_true]
      exact not_congr (like_containing v.toText x)
  | startsWith =>
      obtain ⟨v, rfl⟩ := hvalue (by decide)
      refine ⟨_, withText_eq hrow hparams _, ?_⟩
      rw [FilterValue.toText_scalar]
      exact List.isPrefixOf_iff_prefix
  | isIn =>
      refine ⟨_, withTexts_eq hrow hparams _, ?_⟩
      exact FilterValue.contains_texts value x
  | notIn =>
      refine ⟨_, withTexts_eq hrow hparams _, ?_⟩
      rw [Bool.not_eq_true', ← Bool.not_eq_true, FilterValue.contains_texts]
      simp only [Filter.Admits, not_exists, not_and]

/-- The condition that a filter on a text column is compiled to, with the value that is bound for it,
is true of a row exactly when the text in the column is what the filter asks for. -/
theorem holds?_compiled_filter
    {table : Table} {f : Filter} {column : Column}
    (hcolumn : table.column? f.field = some column)
    (htype : column.type = .string ∨ column.type = .enumeration)
    (hoperator : f.operator.family ≠ .ordering)
    (haccepted : Validation.checkFilter table f = .ok ())
    (i : Nat) {row : String → Option String} {x : String} (hrow : row f.field = some x)
    {params : String → Option Binding}
    (hparams : params (filterParameter i) =
      some (Compilation.binding f.operator (Compilation.columnType table f.field) f.value)) :
    ∃ condition truth,
      tokens? (Compilation.comparison table (filterParameter i) f).sql = some condition ∧
        holds? row params condition = some truth ∧ (truth = true ↔ f.Admits x) := by
  have hcolumnType : Compilation.columnType table f.field = column.type := by
    simp [Compilation.columnType, hcolumn]
  have htime : column.type ≠ .dateTime := by
    rcases htype with htype | htype <;> simp [htype]
  rw [hcolumnType, Compilation.binding_of_ne_dateTime htime] at hparams
  have hvalue := Validation.value_of_checkFilter haccepted
  obtain ⟨truth, htruth, hadmits⟩ := holds?_condition htype hoperator hvalue hrow hparams
  refine ⟨Layout.filterCondition table (f, i), truth, ?_, ?_, hadmits⟩
  · exact Compilation.tokens?_comparison table f i
  · rw [Layout.filterCondition, hcolumnType]
    exact htruth

/-- A filter whose value is full of pattern characters. -/
def discountFilter : Filter :=
  ⟨"provider", .contains, .scalar (.text "50%_\\")⟩

/-- The number 12.5. -/
def rateValue : Scalar :=
  .number (.float ⟨false, 4623226492472524800, by decide⟩)

/-- A filter whose value is a number with a fraction. -/
def rateFilter : Filter :=
  ⟨"provider", .ne, .scalar rateValue⟩

/-- A filter whose value is a list with a number in it. -/
def codesFilter : Filter :=
  ⟨"provider", .isIn, .list [.text "paddle", .number (.ofUInt32 7)]⟩

def providerRow (provider name : String) : Option String :=
  if name = "provider" then some provider else none

def providerParams (bound : Binding) (name : String) : Option Binding :=
  if name = "filter_3" then some bound else none

/-- The condition of a filter, with a value bound for it, is true of the rows of a provider, or is
false of them. -/
def SaysOfProvider (f : Filter) (bound : Binding) (provider : String) (truth : Bool) : Prop :=
  ∃ condition,
    tokens? (Compilation.comparison Schema.revenue (filterParameter 3) f).sql = some condition ∧
      holds? (providerRow provider) (providerParams bound) condition = some truth

/-- The filter on the provider passes the check, and the value that is bound for it is the given
one. -/
def BindsForProvider (f : Filter) (bound : Binding) : Prop :=
  Schema.revenue.column? f.field = some (.category "provider") ∧
    Validation.checkFilter Schema.revenue f = .ok () ∧
    providerParams bound (filterParameter 3) =
      some (Compilation.binding f.operator (Compilation.columnType Schema.revenue f.field) f.value)

/-- The pattern characters of a value stand for themselves, and a number for its text. -/
theorem holds?_discountFilter :
    BindsForProvider discountFilter (.text "%50\\%\\_\\\\%") ∧
      SaysOfProvider discountFilter (.text "%50\\%\\_\\\\%") "now 50%_\\ off" true ∧
      SaysOfProvider discountFilter (.text "%50\\%\\_\\\\%") "now 50 and a half off" false ∧
      BindsForProvider rateFilter (.text "12.5") ∧
      SaysOfProvider rateFilter (.text "12.5") "12.50" true ∧
      SaysOfProvider rateFilter (.text "12.5") "12.5" false ∧
      BindsForProvider codesFilter (.texts ["paddle", "7"]) ∧
      SaysOfProvider codesFilter (.texts ["paddle", "7"]) "7" true ∧
      SaysOfProvider codesFilter (.texts ["paddle", "7"]) "07" false := by
  have hsays (f : Filter) (bound : Binding) (x : String) (truth : Bool)
      (hfield : f.field = "provider") (hoperator : f.operator.family ≠ .ordering)
      (hbinds : BindsForProvider f bound) (htruth : truth = true ↔ f.Admits x) :
      SaysOfProvider f bound x truth := by
    obtain ⟨hcolumn, haccepted, hparams⟩ := hbinds
    have hrow : providerRow x f.field = some x := by
      rw [hfield]
      rfl
    obtain ⟨condition, truth', htokens, hholds, hadmits⟩ :=
      holds?_compiled_filter hcolumn (Or.inr rfl) hoperator haccepted 3 hrow hparams
    have hsame : truth' = truth := Bool.eq_iff_iff.mpr (hadmits.trans htruth.symm)
    exact ⟨condition, htokens, hsame ▸ hholds⟩
  have hdiscount : BindsForProvider discountFilter (.text "%50\\%\\_\\\\%") :=
    ⟨rfl, rfl, by decide +kernel⟩
  have hrate : BindsForProvider rateFilter (.text "12.5") :=
    ⟨rfl, rfl, by decide +kernel⟩
  have hcodes : BindsForProvider codesFilter (.texts ["paddle", "7"]) :=
    ⟨rfl, rfl, by decide +kernel⟩
  refine ⟨hdiscount, ?_, ?_, hrate, ?_, ?_, hcodes, ?_, ?_⟩
  · refine hsays _ _ _ _ rfl (by decide) hdiscount (iff_of_true rfl ?_)
    exact ⟨"now ".toList, " off".toList, by decide⟩
  · refine hsays _ _ _ _ rfl (by decide) hdiscount (iff_of_false (by decide) ?_)
    change ¬ "50%_\\".toList <:+: "now 50 and a half off".toList
    decide
  · refine hsays _ _ _ _ rfl (by decide) hrate (iff_of_true rfl ?_)
    have hother : "12.50" ≠ rateValue.toText := by decide +kernel
    exact hother
  · refine hsays _ _ _ _ rfl (by decide) hrate (iff_of_false (by decide) ?_)
    have htext : "12.5" = rateValue.toText := by decide +kernel
    exact fun h => h htext
  · refine hsays _ _ _ _ rfl (by decide) hcodes (iff_of_true rfl ?_)
    have htext : "7" = (Scalar.number (.ofUInt32 7)).toText := by decide +kernel
    exact ⟨_, List.mem_cons_of_mem _ List.mem_cons_self, htext⟩
  · refine hsays _ _ _ _ rfl (by decide) hcodes (iff_of_false (by decide) ?_)
    have hnone : ∀ item ∈ codesFilter.value.items, "07" ≠ item.toText := by decide +kernel
    rintro ⟨item, hitem, htext⟩
    exact hnone item hitem htext

end AnalyticsQuery
