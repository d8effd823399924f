import AnalyticsQuery.Proofs.Decimal.Range
import AnalyticsQuery.Proofs.Query.Validation

/-!
# The rules of a configuration

What a valid configuration is can be said without the order of its checks: its
table is known, its select expressions, filters and group keys are not too many,
and each of them is allowed on the table.  The order matters for the answer to a
configuration that is not valid.  It is that of a list of rules: the table, the
number of select expressions and each of them from left to right, the number of
filters and each of them, the number of group keys and each of them.  The answer
is the first rule of the list that is broken.

* `Follows`: an outcome is the one that a list of rules asks for; `Follows.append`
  and `Follows.checkAll` put outcomes together as the checks do.
* `Selection.follows`, `Filter.follows`, `Config.follows`: the checks follow their
  rules.
* `Config.isValid_iff_rules`: the rules together say what a valid configuration is.
* `Config.validate_exact`: both, for every registry and every configuration.
-/

namespace AnalyticsQuery

/-! ## Values that filters compare with -/

namespace Scalar

/-- A number, or a text that spells one, blanks at its ends aside. -/
def IsNumeric : Scalar → Prop
  | number _ => True
  | text s => ∃ x, Decimal.readBinary64? (trimmedChars s) = some x

/-- A date, or a date with a time of day in one of three forms, blanks at its ends aside. -/
def IsDate : Scalar → Prop
  | number _ => False
  | text s =>
      Calendar.isDate (trimmedChars s) = true ∨
        Calendar.isSpacedDateTime (trimmedChars s) = true ∨
        Calendar.isJoinedDateTime (trimmedChars s) = true ∨
        Calendar.isTimestamp (trimmedChars s) = true

theorem isSome_toBinary64?_iff (s : Scalar) : s.toBinary64?.isSome = true ↔ s.IsNumeric := by
  cases s with
  | number n =>
      obtain ⟨x, hx⟩ := n.exists_toBinary64?
      simp [toBinary64?, hx, IsNumeric]
  | text s => simp [toBinary64?, IsNumeric, Option.isSome_iff_exists]

theorem isMomentValue_iff (s : Scalar) :
    Validation.isMomentValue s = true ↔ s.IsNumeric ∨ s.IsDate := by
  unfold Validation.isMomentValue
  rw [Bool.or_eq_true, isSome_toBinary64?_iff]
  cases s with
  | number n => simp [IsNumeric]
  | text s => simp [IsDate, trimmedChars, toText, Calendar.isMoment, or_assoc]

end Scalar

/-! ## Valid configurations -/

/-- A select expression counts all rows, or it takes an aggregate of a column: of one that is open
to aggregation, or one of the two aggregates that every column allows. -/
def Selection.IsAllowed (table : Table) (s : Selection) : Prop :=
  (s.field = wildcard ∧ s.aggregate = .count) ∨
    s.field ≠ wildcard ∧ ∃ column, table.column? s.field = some column ∧
      (column.aggregatable = true ∨ s.aggregate = .count ∨ s.aggregate = .uniq)

namespace Filter

/-- A list is compared by the two operators of membership only. -/
def ListFits (f : Filter) : Prop :=
  f.value.isList = true → f.operator = .isIn ∨ f.operator = .notIn

/-- What the value of a filter has to be for the type of its column. -/
structure ValueFits (column : Column) (f : Filter) : Prop where
  dateTime : column.type = .dateTime → f.operator ∈ [.eq, .ne, .gt, .lt, .gte, .lte] →
    ∃ s, f.value = .scalar s ∧ (s.IsNumeric ∨ s.IsDate)
  ordering : column.type ≠ .dateTime → f.operator ∈ [.gt, .lt, .gte, .lte] →
    ∃ s, f.value = .scalar s ∧ s.IsNumeric
  number : column.type = .number → f.operator ∈ [.eq, .ne] →
    ∃ s, f.value = .scalar s ∧ s.IsNumeric

/-- A filter names a column that is open to filters and has a value that fits. -/
def IsAllowed (table : Table) (f : Filter) : Prop :=
  ∃ column, table.column? f.field = some column ∧ column.filterable = true ∧
    f.ListFits ∧ f.ValueFits column

end Filter

/-- What a configuration has to be on a table. -/
structure Config.FitsTable (config : Config) (table : Table) : Prop where
  selects_pos : 1 ≤ config.selects.length
  selects_le : config.selects.length ≤ 10
  selects : ∀ s ∈ config.selects, s.IsAllowed table
  filters_le : config.filters.length ≤ 20
  filters : ∀ f ∈ config.filters, f.IsAllowed table
  groupBy_le : config.groupBy.length ≤ 5
  groupBy : ∀ field ∈ config.groupBy, ∃ column, table.column? field = some column

/-- A configuration names a table of the registry and fits it. -/
def Config.IsValid (registry : Registry) (config : Config) : Prop :=
  ∃ table, registry.table? config.table = some table ∧ config.FitsTable table

/-! ## Lists of rules -/

/-- A rule, and the kind and the part of a configuration that its violation is reported with. -/
structure Rule where
  kind : ValidationKind
  part : String
  Holds : Prop

namespace Rule

/-- An error reports the first broken rule of a list. -/
def ReportsFirst (rules : List Rule) (e : ValidationError) : Prop :=
  ∃ before rule after, rules = before ++ rule :: after ∧ (∀ r ∈ before, r.Holds) ∧
    ¬ rule.Holds ∧ e.kind = rule.kind ∧ e.field = some rule.part

/-- An outcome is the one that a list of rules asks for. -/
def Follows (rules : List Rule) (r : Except ValidationError Unit) : Prop :=
  match r with
  | .ok _ => ∀ rule ∈ rules, rule.Holds
  | .error e => ReportsFirst rules e

variable {rules rest : List Rule} {rule : Rule} {e : ValidationError}

theorem ReportsFirst.append (h : ReportsFirst rules e) (rest : List Rule) :
    ReportsFirst (rules ++ rest) e := by
  obtain ⟨before, rule, after, rfl, hbefore, hbroken⟩ := h
  exact ⟨before, rule, after ++ rest, by simp, hbefore, hbroken⟩

theorem ReportsFirst.after (hholds : ∀ rule ∈ rules, rule.Holds) (h : ReportsFirst rest e) :
    ReportsFirst (rules ++ rest) e := by
  obtain ⟨before, rule, after, rfl, hbefore, hbroken⟩ := h
  refine ⟨rules ++ before, rule, after, by simp, ?_, hbroken⟩
  intro r hr
  rcases List.mem_append.mp hr with hr | hr
  · exact hholds r hr
  · exact hbefore r hr

/-- Checks that are made one after the other follow both lists of rules in that order. -/
theorem Follows.append {first second : Except ValidationError Unit} :
    Follows rules first → Follows rest second →
      Follows (rules ++ rest)
        (match first with
          | .error e => .error e
          | .ok () => second) := by
  intro hfirst hsecond
  cases first with
  | error e => exact ReportsFirst.append hfirst rest
  | ok u =>
      cases second with
      | error e => exact ReportsFirst.after hfirst hsecond
      | ok u =>
          intro rule hrule
          rcases List.mem_append.mp hrule with hrule | hrule
          · exact hfirst rule hrule
          · exact hsecond rule hrule

/-- The members of a list are checked by their rules from left to right. -/
theorem Follows.checkAll
    {α : Type} {rulesOf : α → List Rule} {check : α → Except ValidationError Unit}
    (h : ∀ a, Follows (rulesOf a) (check a)) (l : List α) :
    Follows (l.flatMap rulesOf) (Validation.checkAll check l) := by
  induction l with
  | nil => simp [Follows, Validation.checkAll]
  | cons a l ih => exact Follows.append (h a) ih

/-- Nothing is checked behind a broken rule. -/
theorem follows_error
    (hbroken : ¬ rule.Holds) (hkind : e.kind = rule.kind) (hpart : e.field = some rule.part) :
    Follows (rule :: rest) (.error e) :=
  ⟨[], rule, rest, rfl, by simp, hbroken, hkind, hpart⟩

theorem follows_require
    {condition : Bool} (hholds : condition = true ↔ rule.Holds)
    (hkind : e.kind = rule.kind) (hpart : e.field = some rule.part) :
    Follows [rule] (Validation.require condition e) := by
  cases condition with
  | true => simpa [Follows, Validation.require] using hholds
  | false => exact follows_error (by simpa using hholds) hkind hpart

theorem Follows.cons {r : Except ValidationError Unit} (hholds : rule.Holds) (h : Follows rest r) :
    Follows (rule :: rest) r := by
  have hsingle : Follows [rule] (.ok ()) := by simpa [Follows] using hholds
  exact Follows.append hsingle h

end Rule

open Rule

/-! ## The rules of a configuration -/

/-- The rules of a select expression. -/
def Selection.rules (table : Table) (s : Selection) : List Rule :=
  if s.field = wildcard then [⟨.wildcardRequiresCount, "selects", s.aggregate = .count⟩]
  else
    ⟨.unknownColumn, "selects", ∃ column, table.column? s.field = some column⟩ ::
      match table.column? s.field with
      | none => []
      | some column =>
          [⟨.aggregateNotAllowed, "selects",
            column.aggregatable = true ∨ s.aggregate = .count ∨ s.aggregate = .uniq⟩]

/-- The rules of a filter. -/
def Filter.rules (table : Table) (f : Filter) : List Rule :=
  ⟨.unknownFilterColumn, "filters", ∃ column, table.column? f.field = some column⟩ ::
    match table.column? f.field with
    | none => []
    | some column =>
        [⟨.filterNotAllowed, "filters", column.filterable = true⟩,
          ⟨.invalidFilterValue, "filters", f.ListFits⟩,
          ⟨.invalidFilterValue, "filters", f.ValueFits column⟩]

/-- The rules of the select expressions: their number, and each of them from left to right. -/
def Table.selectRules (table : Table) (selects : List Selection) : List Rule :=
  ⟨.emptySelects, "selects", 1 ≤ selects.length⟩ ::
    ⟨.tooManySelects, "selects", selects.length ≤ 10⟩ :: selects.flatMap (Selection.rules table)

/-- The rules of the filters: their number, and each of them from left to right. -/
def Table.filterRules (table : Table) (filters : List Filter) : List Rule :=
  ⟨.tooManyFilters, "filters", filters.length ≤ 20⟩ :: filters.flatMap (Filter.rules table)

/-- The rules of the group keys: their number, and each of them from left to right. -/
def Table.keyRules (table : Table) (fields : List String) : List Rule :=
  ⟨.tooManyGroupBy, "groupBy", fields.length ≤ 5⟩ ::
    fields.map fun field =>
      ⟨.unknownGroupByColumn, "groupBy", ∃ column, table.column? field = some column⟩

/-- The rules of a configuration in the order in which they are checked. -/
def Config.rules (registry : Registry) (config : Config) : List Rule :=
  ⟨.unknownTable, "table", ∃ table, registry.table? config.table = some table⟩ ::
    match registry.table? config.table with
    | none => []
    | some table =>
        table.selectRules config.selects ++
          (table.filterRules config.filters ++ table.keyRules config.groupBy)

/-! ## The checks follow the rules -/

namespace Operator

theorem family_eq_membership_iff (o : Operator) :
    o.family = .membership ↔ o = .isIn ∨ o = .notIn := by
  cases o <;> simp [family]

theorem mem_equality_iff (o : Operator) : o ∈ [.eq, .ne] ↔ o.family = .equality := by
  cases o <;> simp [family]

theorem mem_ordering_iff (o : Operator) :
    o ∈ [.gt, .lt, .gte, .lte] ↔ o.family = .ordering := by
  cases o <;> simp [family]

theorem mem_comparing_iff (o : Operator) :
    o ∈ [.eq, .ne, .gt, .lt, .gte, .lte] ↔ o.family = .equality ∨ o.family = .ordering := by
  cases o <;> simp [family]

end Operator

theorem Validation.isScalarWith_iff (p : Scalar → Bool) (value : FilterValue) :
    isScalarWith p value = true ↔ ∃ s, value = .scalar s ∧ p s = true := by
  cases value with
  | list items => simp [isScalarWith]
  | scalar s => simp [isScalarWith]

theorem Selection.follows (table : Table) (s : Selection) :
    Follows (s.rules table) (Validation.checkSelection table s) := by
  unfold Selection.rules Validation.checkSelection
  by_cases hfield : s.field = wildcard
  · simp only [isWildcard, hfield, beq_self_eq_true, if_true]
    exact follows_require (by simp) rfl rfl
  · simp only [isWildcard, beq_iff_eq, hfield, if_false]
    cases hcolumn : table.column? s.field with
    | none => exact follows_error (by simp) rfl rfl
    | some column =>
        refine Follows.cons ⟨column, rfl⟩ (follows_require ?_ rfl rfl)
        cases haggregate : s.aggregate <;> simp [Aggregate.countsRows]

namespace Filter

/-- Which values fit depends on the operator through its family only. -/
theorem valueFits_iff (column : Column) (f : Filter) :
    f.ValueFits column ↔
      (column.type = .dateTime → f.operator.family = .equality ∨ f.operator.family = .ordering →
        Validation.isScalarWith Validation.isMomentValue f.value = true) ∧
      (column.type ≠ .dateTime → f.operator.family = .ordering →
        Validation.isScalarWith (fun s => s.toBinary64?.isSome) f.value = true) ∧
      (column.type = .number → f.operator.family = .equality →
        Validation.isScalarWith (fun s => s.toBinary64?.isSome) f.value = true) := by
  simp only [Validation.isScalarWith_iff, Scalar.isMomentValue_iff,
    Scalar.isSome_toBinary64?_iff]
  constructor
  · rintro ⟨hdateTime, hordering, hnumber⟩
    exact ⟨fun ht ho => hdateTime ht (f.operator.mem_comparing_iff.mpr ho),
      fun ht ho => hordering ht (f.operator.mem_ordering_iff.mpr ho),
      fun ht ho => hnumber ht (f.operator.mem_equality_iff.mpr ho)⟩
  · rintro ⟨hdateTime, hordering, hnumber⟩
    exact ⟨fun ht ho => hdateTime ht (f.operator.mem_comparing_iff.mp ho),
      fun ht ho => hordering ht (f.operator.mem_ordering_iff.mp ho),
      fun ht ho => hnumber ht (f.operator.mem_equality_iff.mp ho)⟩

theorem follows_value (column : Column) (f : Filter) :
    Follows [⟨.invalidFilterValue, "filters", f.ValueFits column⟩]
      (Validation.checkValue column f.operator f.value) := by
  have hfits := valueFits_iff column f
  unfold Validation.checkValue
  cases hfamily : f.operator.family <;> cases htype : column.type <;>
    simp only [hfamily, htype] at hfits ⊢
  -- Either one kind of value is asked for, or every value fits.
  all_goals first
    | exact follows_require (by simp [hfits]) rfl rfl
    | simp [Follows, hfits]

theorem follows (table : Table) (f : Filter) :
    Follows (f.rules table) (Validation.checkFilter table f) := by
  unfold rules Validation.checkFilter
  cases hcolumn : table.column? f.field with
  | none => exact follows_error (by simp) rfl rfl
  | some column =>
      refine Follows.cons ⟨column, rfl⟩ ?_
      simp only
      cases hopen : column.filterable with
      | false => exact follows_error (by simp) rfl rfl
      | true =>
          refine Follows.cons rfl ?_
          by_cases hlist : f.ListFits
          · have hguard : (f.value.isList && f.operator.family != .membership) = false := by
              cases hvalue : f.value.isList with
              | false => rfl
              | true => simpa using f.operator.family_eq_membership_iff.mpr (hlist hvalue)
            simp only [hguard]
            exact Follows.cons hlist (follows_value column f)
          · have hguard : (f.value.isList && f.operator.family != .membership) = true := by
              simpa [ListFits, f.operator.family_eq_membership_iff] using hlist
            simp only [hguard]
            exact follows_error hlist rfl rfl

end Filter

namespace Table

theorem follows_selects (table : Table) (selects : List Selection) :
    Follows (table.selectRules selects) (Validation.checkSelects table selects) := by
  unfold selectRules Validation.checkSelects
  cases selects with
  | nil => exact follows_error (by simp) rfl rfl
  | cons s rest =>
      refine Follows.cons (by simp) ?_
      by_cases hmany : Limits.maxSelects < (s :: rest).length
      · simp only [List.isEmpty_cons, Bool.false_eq_true, if_false, if_pos hmany]
        exact follows_error (Nat.not_le.mpr hmany) rfl rfl
      · simp only [List.isEmpty_cons, Bool.false_eq_true, if_false, if_neg hmany]
        exact Follows.cons (Nat.not_lt.mp hmany) (Follows.checkAll (Selection.follows table) _)

theorem follows_filters (table : Table) (filters : List Filter) :
    Follows (table.filterRules filters) (Validation.checkFilters table filters) := by
  unfold filterRules Validation.checkFilters
  by_cases hmany : Limits.maxFilters < filters.length
  · rw [if_pos hmany]
    exact follows_error (Nat.not_le.mpr hmany) rfl rfl
  · rw [if_neg hmany]
    exact Follows.cons (Nat.not_lt.mp hmany) (Follows.checkAll (Filter.follows table) _)

theorem follows_keys (table : Table) (fields : List String) :
    Follows (table.keyRules fields) (Validation.checkGroupKeys table fields) := by
  unfold keyRules Validation.checkGroupKeys
  by_cases hmany : Limits.maxGroupKeys < fields.length
  · rw [if_pos hmany]
    exact follows_error (Nat.not_le.mpr hmany) rfl rfl
  · rw [if_neg hmany, List.map_eq_flatMap]
    refine Follows.cons (Nat.not_lt.mp hmany) (Follows.checkAll (fun field => ?_) _)
    exact follows_require (by simp [Option.isSome_iff_exists]) rfl rfl

end Table

/-- A configuration is checked by its rules, in their order. -/
theorem Config.follows (registry : Registry) (config : Config) :
    Follows (config.rules registry) (config.validate registry) := by
  unfold rules validate
  cases htable : registry.table? config.table with
  | none => exact follows_error (by simp) rfl rfl
  | some table =>
      refine Follows.cons ⟨table, rfl⟩ ?_
      exact (table.follows_selects config.selects).append
        ((table.follows_filters config.filters).append (table.follows_keys config.groupBy))

/-! ## Valid configurations keep every rule -/

theorem Selection.isAllowed_iff_rules (table : Table) (s : Selection) :
    s.IsAllowed table ↔ ∀ rule ∈ s.rules table, rule.Holds := by
  unfold IsAllowed rules
  by_cases hfield : s.field = wildcard
  · simp [hfield]
  · cases hcolumn : table.column? s.field <;> simp [hfield]

theorem Filter.isAllowed_iff_rules (table : Table) (f : Filter) :
    f.IsAllowed table ↔ ∀ rule ∈ f.rules table, rule.Holds := by
  unfold IsAllowed rules
  cases hcolumn : table.column? f.field <;> simp

theorem Config.fitsTable_iff_rules (table : Table) (config : Config) :
    config.FitsTable table ↔
      ∀ rule ∈ table.selectRules config.selects ++
        (table.filterRules config.filters ++ table.keyRules config.groupBy), rule.Holds := by
  simp only [Table.selectRules, Table.filterRules, Table.keyRules, List.forall_mem_append,
    List.forall_mem_cons, List.forall_mem_flatMap, List.forall_mem_map,
    ← Selection.isAllowed_iff_rules, ← Filter.isAllowed_iff_rules]
  constructor
  · rintro ⟨hpos, hselectsLe, hselects, hfiltersLe, hfilters, hgroupByLe, hgroupBy⟩
    exact ⟨⟨hpos, hselectsLe, hselects⟩, ⟨hfiltersLe, hfilters⟩, hgroupByLe, hgroupBy⟩
  · rintro ⟨⟨hpos, hselectsLe, hselects⟩, ⟨hfiltersLe, hfilters⟩, hgroupByLe, hgroupBy⟩
    exact ⟨hpos, hselectsLe, hselects, hfiltersLe, hfilters, hgroupByLe, hgroupBy⟩

theorem Config.isValid_iff_rules (registry : Registry) (config : Config) :
    config.IsValid registry ↔ ∀ rule ∈ config.rules registry, rule.Holds := by
  unfold IsValid rules
  cases htable : registry.table? config.table with
  | none => simp
  | some table => simp [fitsTable_iff_rules]

theorem Config.validate_eq_ok_iff_isValid (registry : Registry) (config : Config) :
    config.validate registry = .ok () ↔ config.IsValid registry := by
  have hfollows := config.follows registry
  rw [isValid_iff_rules]
  constructor
  · intro hok
    rw [hok] at hfollows
    exact hfollows
  · intro hholds
    cases hvalid : config.validate registry with
    | ok u => rfl
    | error e =>
        rw [hvalid] at hfollows
        obtain ⟨before, rule, after, hrules, -, hbroken, -⟩ := hfollows
        exact absurd (hholds rule (by simp [hrules])) hbroken

/-- The checks accept the valid configurations and no others, and the error that they refuse a
configuration with is that of the first rule that it breaks. -/
theorem Config.validate_exact (registry : Registry) (config : Config) :
    (config.validate registry = .ok () ↔ config.IsValid registry) ∧
      ∀ e, config.validate registry = .error e →
        ∃ before rule after, config.rules registry = before ++ rule :: after ∧
          (∀ r ∈ before, r.Holds) ∧ ¬ rule.Holds ∧
          e.kind = rule.kind ∧ e.field = some rule.part := by
  refine ⟨config.validate_eq_ok_iff_isValid registry, ?_⟩
  intro e herror
  have hfollows := config.follows registry
  rw [herror] at hfollows
  exact hfollows

end AnalyticsQuery
