import AnalyticsQuery.Proofs.Query.Parameters
import AnalyticsQuery.Proofs.Query.Shape
import AnalyticsQuery.Proofs.Query.Validation

/-!
# The output columns of compiled queries

A row of a result is an object with a member for each output column, so two
columns of one name leave one member between them.  The columns come from three
places, the unit of time, the group keys and the select expressions, and they
are read off the text of a query here: what stands behind SELECT is cut at the
commas outside all parentheses, and a column is named by what stands behind AS,
or by itself.

Nothing keeps the names of select expressions apart from one another and from
the other names, and a group key that a select expression has as its field is
no column of its own.  This says exactly when a row is complete.

* `outputColumns?_statement`: the columns that are read off the text of a
  compiled statement.
* `Layout.nodup_outputNames_iff`: when no two of them have one name.
* `Config.output_columns_of_valid`: both, for every valid configuration, and
  what this means for a row.
-/

namespace AnalyticsQuery

namespace Sql

/-! ## Reading output columns -/

/-- The parts of a token list between the commas outside all parentheses. -/
def Token.commaParts : Nat → List Token → List (List Token)
  | _, [] => [[]]
  | depth, t :: rest =>
      if t = .sign "," ∧ depth = 0 then [] :: commaParts 0 rest
      else (commaParts (depthAfter depth t) rest).modifyHead (t :: ·)

/-- The name of an output column: the one behind AS, or that of a column that stands alone. -/
def Token.columnName? (column : List Token) : Option String :=
  match column.reverse with
  | [.name text] => some text
  | .name text :: .keyword "as" :: _ => some text
  | _ => none

/-- The output columns that a query text asks for. -/
def outputColumns? (sql : String) : Option (List (List Token)) :=
  (readClauses? sql).bind fun clauses =>
    match Clause.bodies "select" clauses with
    | [body] => some (Token.commaParts 0 body)
    | _ => none

/-- The names of the output columns that a query text asks for. -/
def outputNames? (sql : String) : Option (List String) :=
  (outputColumns? sql).bind fun columns => columns.mapM Token.columnName?

namespace Token

/-- Tokens that no comma parts, whatever follows them. -/
def Unparted (ts : List Token) : Prop :=
  ∀ rest, commaParts 0 (ts ++ rest) = (commaParts 0 rest).modifyHead (ts ++ ·)

/-- Pieces that were listed with commas between them are parted again. -/
theorem commaParts_listed
    {items : List (List Token)} (hne : items ≠ []) (h : ∀ i ∈ items, Unparted i) :
    commaParts 0 (listed items) = items := by
  induction items with
  | nil => exact absurd rfl hne
  | cons a items ih =>
      have ha : Unparted a := h a List.mem_cons_self
      cases items with
      | nil =>
          have hlast := ha []
          simpa [listed, commaParts] using hlast
      | cons b items =>
          have hrest := ih (List.cons_ne_nil b items) fun i hi => h i (List.mem_cons_of_mem a hi)
          have hsplit :
              listed (a :: b :: items) = a ++ .sign "," :: listed (b :: items) := by
            simp [listed, List.intercalate_cons_cons]
          rw [hsplit, ha, commaParts, if_pos ⟨rfl, rfl⟩, hrest, List.modifyHead_cons,
            List.append_nil]

end Token
end Sql

open Sql

namespace Layout

theorem unparted_bucketColumn (unit : TimeUnit) (time : String) :
    Token.Unparted (bucketColumn unit time) := by
  intro rest
  simp [bucketColumn, Token.commaParts, Token.depthAfter, Function.comp_def]

theorem unparted_name (key : String) : Token.Unparted [.name key] := by
  intro rest
  simp [Token.commaParts, Token.depthAfter]

theorem unparted_selectColumn (s : Selection) : Token.Unparted (selectColumn s) := by
  intro rest
  cases h : s.isWildcard <;>
    simp [selectColumn, h, Token.commaParts, Token.depthAfter, Function.comp_def]

theorem unparted_of_mem_columns
    {table : Table} {config : Config} {column : List Token} (h : column ∈ columns table config) :
    Token.Unparted column := by
  simp only [columns, List.mem_append] at h
  rcases h with (h | h) | h
  · obtain ⟨unit, -, rfl⟩ := List.mem_map.mp h
    exact unparted_bucketColumn unit table.primaryTimeField
  · obtain ⟨key, -, rfl⟩ := List.mem_map.mp h
    exact unparted_name key
  · obtain ⟨s, -, rfl⟩ := List.mem_map.mp h
    exact unparted_selectColumn s

/-- The names of the output columns: that of the unit of time, the group keys that are no selected
field, and the names of the select expressions. -/
def outputNames (config : Config) : List String :=
  (config.timeBucket.toList.map fun _ => "date") ++ bareKeys config ++
    config.selects.map Selection.outputName

theorem columnName?_selectColumn (s : Selection) :
    Token.columnName? (selectColumn s) = some s.outputName := by
  cases h : s.isWildcard <;> simp [selectColumn, h, Token.columnName?]

theorem mapM_columnName?_columns (table : Table) (config : Config) :
    (columns table config).mapM Token.columnName? = some (outputNames config) := by
  have hmap :
      ∀ {α : Type} (l : List α) (column : α → List Token) (name : α → String),
        (∀ a, Token.columnName? (column a) = some (name a)) →
          (l.map column).mapM Token.columnName? = some (l.map name) := by
    intro α l column name hname
    induction l with
    | nil => rfl
    | cons a l ih => simp [hname a, ih]
  have hbucket := hmap config.timeBucket.toList
    (fun unit => bucketColumn unit table.primaryTimeField) (fun _ => "date") fun _ => rfl
  have hkeys := hmap (bareKeys config) (fun key => [.name key]) id fun _ => rfl
  have hselects := hmap config.selects selectColumn Selection.outputName columnName?_selectColumn
  simp [columns, outputNames, List.mapM_append, hbucket, hkeys, hselects]

end Layout

/-- The output columns that are read off the text of a compiled statement. -/
theorem Compilation.outputColumns?_statement
    (table : Table) {config : Config} (hne : config.selects ≠ []) (limit offset : UInt32) :
    outputColumns? (statement table config limit offset).sql =
      some (Layout.columns table config) := by
  have hbodies :
      Clause.bodies "select" (statement table config limit offset).clauses =
        [Token.listed (Layout.columns table config)] := by
    rw [bodies_statement (by decide) (by decide)]
    unfold Statement.offsetClause
    split <;> rfl
  have hcolumns : Layout.columns table config ≠ [] := by
    simp [Layout.columns, hne]
  rw [outputColumns?, readClauses?_statement, Option.bind_some, hbodies]
  exact congrArg some
    (Token.commaParts_listed hcolumns fun _ h => Layout.unparted_of_mem_columns h)

theorem Compilation.outputNames?_statement
    (table : Table) {config : Config} (hne : config.selects ≠ []) (limit offset : UInt32) :
    outputNames? (statement table config limit offset).sql =
      some (Layout.outputNames config) := by
  rw [outputNames?, outputColumns?_statement table hne, Option.bind_some]
  exact Layout.mapM_columnName?_columns table config

/-! ## Names that meet -/

/-- A field that a select expression takes its aggregate of. -/
def Config.Selects (config : Config) (field : String) : Prop :=
  ∃ s ∈ config.selects, s.field = field

/-- No two output columns have one name.  Group keys meet no other name as long as a select
expression has them as its field, since they are no columns then. -/
structure Config.NamesApart (config : Config) : Prop where
  selects : (config.selects.map Selection.outputName).Nodup
  keys : ∀ s ∈ config.selects, s.outputName ∈ config.groupBy → config.Selects s.outputName
  bucket : config.timeBucket.isSome = true →
    (∀ s ∈ config.selects, s.outputName ≠ "date") ∧
      ("date" ∈ config.groupBy → config.Selects "date")

namespace Layout

theorem nodup_eraseDups (l : List String) : l.eraseDups.Nodup := by
  induction hn : l.length using Nat.strongRecOn generalizing l with
  | ind n ih =>
      cases l with
      | nil => simp
      | cons a rest =>
          have hshorter : (rest.filter fun b => !b == a).length < n := by
            have hle := List.length_filter_le (fun b => !b == a) rest
            rw [List.length_cons] at hn
            omega
          rw [List.eraseDups_cons, List.nodup_cons]
          exact ⟨by simp, ih _ hshorter _ rfl⟩

/-- The group keys that are columns of their own are those that no select expression has as its
field. -/
theorem mem_bareKeys_iff {config : Config} {key : String} :
    key ∈ bareKeys config ↔ key ∈ config.groupBy ∧ ¬ config.Selects key := by
  simp [bareKeys, Config.Selects]

theorem nodup_outputNames_iff (config : Config) :
    (outputNames config).Nodup ↔ config.NamesApart := by
  have hkeys : (bareKeys config).Nodup := nodup_eraseDups _
  constructor
  · intro h
    obtain ⟨hfront, hselects, hbehind⟩ := List.nodup_append.mp h
    obtain ⟨-, -, hbucket⟩ := List.nodup_append.mp hfront
    refine ⟨hselects, ?_, ?_⟩
    · intro s hs hkey
      by_contra hbare
      have hmem : s.outputName ∈ bareKeys config := mem_bareKeys_iff.mpr ⟨hkey, hbare⟩
      exact hbehind _ (List.mem_append_right _ hmem) _ (List.mem_map_of_mem hs) rfl
    · intro hsome
      obtain ⟨unit, hunit⟩ := Option.isSome_iff_exists.mp hsome
      have hdate : "date" ∈ config.timeBucket.toList.map fun _ => "date" := by
        simp [hunit]
      constructor
      · intro s hs heq
        exact hbehind _ (List.mem_append_left _ hdate) _ (List.mem_map_of_mem hs) heq.symm
      · intro hkey
        by_contra hbare
        exact hbucket _ hdate _ (mem_bareKeys_iff.mpr ⟨hkey, hbare⟩) rfl
  · intro h
    have hdate : ∀ name ∈ config.timeBucket.toList.map fun _ => "date",
        name = "date" ∧ config.timeBucket.isSome = true := by
      intro name hname
      obtain ⟨unit, hunit, rfl⟩ := List.mem_map.mp hname
      exact ⟨rfl, Option.isSome_iff_exists.mpr ⟨unit, Option.mem_toList.mp hunit⟩⟩
    have hone : (config.timeBucket.toList.map fun _ => "date").Nodup := by
      cases config.timeBucket <;> simp
    rw [outputNames, List.nodup_append, List.nodup_append]
    refine ⟨⟨hone, hkeys, ?_⟩, h.selects, ?_⟩
    · rintro name hname key hkey rfl
      obtain ⟨rfl, hsome⟩ := hdate name hname
      obtain ⟨hgroup, hbare⟩ := mem_bareKeys_iff.mp hkey
      exact hbare ((h.bucket hsome).2 hgroup)
    · rintro name hname column hcolumn rfl
      obtain ⟨s, hs, rfl⟩ := List.mem_map.mp hcolumn
      rcases List.mem_append.mp hname with hname | hname
      · obtain ⟨heq, hsome⟩ := hdate _ hname
        exact (h.bucket hsome).1 s hs heq
      · obtain ⟨hgroup, hbare⟩ := mem_bareKeys_iff.mp hname
        exact hbare (h.keys s hs hgroup)

theorem name_mem_columns_iff {table : Table} {config : Config} {key : String} :
    [.name key] ∈ columns table config ↔ key ∈ bareKeys config := by
  simp [columns, bucketColumn, selectColumn]

end Layout

/-! ## Rows -/

/-- The row of the values of output columns, of which those of one name leave one. -/
def rowOf (names : List String) (values : List Json) : Row :=
  Dict.ofList (names.zip values)

/-- A row has every value under the name of its column when no two columns have one name. -/
theorem get?_rowOf
    {names : List String} (hnames : names.Nodup) {values : List Json}
    (hlength : values.length = names.length) {e : String × Json} (he : e ∈ names.zip values) :
    (rowOf names values).get? e.1 = some e.2 := by
  have hkeys : (names.zip values).map Prod.fst = names :=
    List.map_fst_zip (Nat.le_of_eq hlength.symm)
  apply Dict.get?_ofList_of_mem
  · rwa [hkeys]
  · exact he

/-- Of two columns of one name a row keeps one value only. -/
theorem nodup_of_get?_rowOf
    {names : List String}
    (h : ∀ values : List Json, values.length = names.length →
      ∀ e ∈ names.zip values, (rowOf names values).get? e.1 = some e.2) :
    names.Nodup := by
  rw [List.nodup_iff_pairwise_ne, List.pairwise_iff_getElem]
  intro i j hi hj hlt heq
  -- The value of the first of the two columns is told from all others.
  obtain ⟨values, hvalues⟩ :
      ∃ values : List Json,
        values = (List.range names.length).map fun k => if k = i then .null else .bool true :=
    ⟨_, rfl⟩
  have hlength : values.length = names.length := by
    simp [hvalues]
  have hfirst : (names[i], Json.null) ∈ names.zip values := by
    apply List.mem_iff_getElem.mpr
    exact ⟨i, by simpa [hlength] using hi, by simp [hvalues]⟩
  have hsecond : (names[j], Json.bool true) ∈ names.zip values := by
    apply List.mem_iff_getElem.mpr
    have hne : j ≠ i := Nat.ne_of_gt hlt
    exact ⟨j, by simpa [hlength] using hj, by simp [hvalues, hne]⟩
  have hnull := h values hlength _ hfirst
  have htrue := h values hlength _ hsecond
  simp only [← heq, hnull] at htrue
  cases htrue

/-- The output columns of a valid configuration are the unit of time, the group keys that are no
selected field, each under its own name, and the select expressions.  Rows hold the values of all of
them exactly when the names of select expressions are apart from one another and from the others. -/
theorem Config.output_columns_of_valid
    {registry : Registry} {config : Config} (h : config.validate registry = .ok ())
    (scope : Scope) :
    ∃ q columns names,
      config.compile registry scope = .ok q ∧
      outputColumns? q.sql = some columns ∧
      outputNames? q.sql = some names ∧
      names = Layout.outputNames config ∧
      (names.Nodup ↔ config.NamesApart) ∧
      (∀ key ∈ config.groupBy,
        ([.name key] ∈ columns ↔ ¬ config.Selects key) ∧ (¬ config.Selects key → key ∈ names)) ∧
      (config.NamesApart ↔ ∀ values : List Json, values.length = names.length →
        ∀ e ∈ names.zip values, (rowOf names values).get? e.1 = some e.2) := by
  obtain ⟨table, htable, hselects, -⟩ := Config.validate_eq_ok_iff.mp h
  have hne : config.selects ≠ [] := by
    intro hnil
    rw [hnil] at hselects
    cases hselects
  refine ⟨_, _, _, Config.compile_of_table? htable scope,
    Compilation.outputColumns?_statement table hne scope.limit scope.offset,
    Compilation.outputNames?_statement table hne scope.limit scope.offset, rfl,
    Layout.nodup_outputNames_iff config, ?_, ?_⟩
  · intro key hkey
    have hbare : key ∈ Layout.bareKeys config ↔ ¬ config.Selects key := by
      simp [Layout.mem_bareKeys_iff, hkey]
    constructor
    · rw [Layout.name_mem_columns_iff, hbare]
    · intro hunselected
      exact List.mem_append_left _ (List.mem_append_right _ (hbare.mpr hunselected))
  · rw [← Layout.nodup_outputNames_iff]
    exact ⟨fun hnodup values hlength e he => get?_rowOf hnodup hlength he, nodup_of_get?_rowOf⟩

/-- Payments of each day by country and provider, with one key asked for twice. -/
def dailyPayments : Config where
  table := "revenue"
  selects := [⟨"amount", .sum, some "revenue"⟩, ⟨"*", .count, none⟩, ⟨"currency", .uniq, none⟩]
  filters := []
  groupBy := ["country", "provider", "country", "currency"]
  timeBucket := some .day

theorem validate_dailyPayments : dailyPayments.validate Schema.registry = .ok () :=
  Config.validate_eq_ok_iff.mpr ⟨Schema.revenue, Schema.table?_revenue, rfl, rfl, rfl⟩

theorem namesApart_dailyPayments : dailyPayments.NamesApart :=
  (Layout.nodup_outputNames_iff dailyPayments).mp (by decide)

/-- The currency is counted and is no column of its own; every other key is one. -/
theorem output_columns_of_dailyPayments :
    dailyPayments.validate Schema.registry = .ok () ∧
      dailyPayments.NamesApart ∧
      ∃ q columns names,
        dailyPayments.compile Schema.registry (Scope.of "w" "2024-01-01" "2024-01-31") = .ok q ∧
        outputColumns? q.sql = some columns ∧
        outputNames? q.sql = some names ∧
        names = ["date", "country", "provider", "revenue", "count_all", "uniq_currency"] ∧
        [.name "country"] ∈ columns ∧ [.name "currency"] ∉ columns ∧
        ∀ a b c d e f : Json,
          (rowOf names [a, b, c, d, e, f]).get? "provider" = some c := by
  obtain ⟨q, columns, names, hq, hcolumns, hnames, rfl, -, hkeys, hrow⟩ :=
    Config.output_columns_of_valid validate_dailyPayments (Scope.of "w" "2024-01-01" "2024-01-31")
  have hcountry : ¬ dailyPayments.Selects "country" := by
    simp [Config.Selects, dailyPayments]
  have hcurrency : dailyPayments.Selects "currency" := by
    simp [Config.Selects, dailyPayments]
  refine ⟨validate_dailyPayments, namesApart_dailyPayments, q, columns, _, hq, hcolumns, hnames,
    by decide, ?_, ?_, ?_⟩
  · exact (hkeys "country" (by decide)).1.mpr hcountry
  · exact fun hmem => (hkeys "currency" (by decide)).1.mp hmem hcurrency
  · intro a b c d e f
    have hnames : Layout.outputNames dailyPayments =
        ["date", "country", "provider", "revenue", "count_all", "uniq_currency"] := by
      decide
    rw [hnames] at hrow ⊢
    exact hrow.mp namesApart_dailyPayments [a, b, c, d, e, f] rfl ("provider", c) (by simp)

/-- Payments by country, of which the countries are counted. -/
def countedCountries : Config where
  table := "revenue"
  selects := [⟨"country", .count, none⟩]
  filters := []
  groupBy := ["country"]
  timeBucket := none

/-- All payments, counted twice. -/
def doubleCount : Config where
  table := "revenue"
  selects := [⟨"*", .count, none⟩, ⟨"*", .count, none⟩]
  filters := []
  groupBy := []
  timeBucket := none

/-- A valid configuration may have a group key that is no output column, and it may have two output
columns of one name. -/
theorem output_columns_meet :
    (countedCountries.validate Schema.registry = .ok () ∧
      "country" ∈ countedCountries.groupBy ∧
      ∃ q names,
        countedCountries.compile Schema.registry (Scope.of "w" "2024-01-01" "2024-01-31") = .ok q ∧
        outputNames? q.sql = some names ∧ "country" ∉ names) ∧
    (doubleCount.validate Schema.registry = .ok () ∧
      ∃ q names,
        doubleCount.compile Schema.registry (Scope.of "w" "2024-01-01" "2024-01-31") = .ok q ∧
        outputNames? q.sql = some names ∧ ¬ names.Nodup) := by
  have hread :
      ∀ config : Config, config.table = "revenue" → config.selects ≠ [] →
        ∃ q, config.compile Schema.registry (Scope.of "w" "2024-01-01" "2024-01-31") = .ok q ∧
          outputNames? q.sql = some (Layout.outputNames config) := by
    intro config htable hne
    have hknown : Schema.registry.table? config.table = some Schema.revenue := by
      rw [htable]
      exact Schema.table?_revenue
    exact ⟨_, Config.compile_of_table? hknown _, Compilation.outputNames?_statement _ hne _ _⟩
  constructor
  · obtain ⟨q, hq, hnames⟩ := hread countedCountries rfl (by decide)
    exact ⟨Config.validate_eq_ok_iff.mpr ⟨Schema.revenue, Schema.table?_revenue, rfl, rfl, rfl⟩,
      List.mem_singleton_self _, q, _, hq, hnames, by decide⟩
  · obtain ⟨q, hq, hnames⟩ := hread doubleCount rfl (by decide)
    exact ⟨Config.validate_eq_ok_iff.mpr ⟨Schema.revenue, Schema.table?_revenue, rfl, rfl, rfl⟩,
      q, _, hq, hnames, by decide⟩

end AnalyticsQuery
