import AnalyticsQuery.Proofs.Json.ReadBack
import AnalyticsQuery.Query.Config

/-!
# Configurations in JSON

A configuration that is written as a JSON value is read back from it.  Nothing is
lost on the way: an alias or a unit of time that is left out is read as none, and
group keys are always written as a list, so that the short form for one key is
never needed.

A filter value is a string, a number, or an array of those, and no other JSON
value is read as one.  It is written as it was read, so that a number and the
text that spells it stay apart, as do an integer and a float, and a value and the
list of that value alone.

* `Scalar.eq_json_of_read`, `Scalar.items_eq_of_readItems`: what is read as single
  values is what they are written as.
* `FilterValue.decode_eq_ok_iff`: a filter value is read from what it is written
  as, and from nothing else.
* `Selection.readsBack`, `Filter.readsBack`: the records inside a configuration.
* `Config.readsBack_showing`: a configuration is read back whether the members of it
  that say nothing are written or not, so also from `Config.json` (`Config.readsBack`).
* `Config.json_reads_back`: all of it together.
-/

namespace AnalyticsQuery

open Json

namespace Json

/-- A string or a number. -/
def IsScalar (v : Json) : Prop :=
  (∃ text, v = .str text) ∨ ∃ n, v = .num n

/-- A string, a number, or an array of strings and numbers. -/
def IsFilterValue (v : Json) : Prop :=
  v.IsScalar ∨ ∃ items, v = .arr items ∧ ∀ item ∈ items, item.IsScalar

end Json

/-! ## Tokens -/

theorem Aggregate.readsBack : Aggregate.decoder.ReadsBack Aggregate.json 0 := by
  intro p a d hp hd
  rw [eq_of_str_isSpelledBy hd]
  cases a <;> rfl

theorem Operator.readsBack : Operator.decoder.ReadsBack Operator.json 0 := by
  intro p o d hp hd
  rw [eq_of_str_isSpelledBy hd]
  cases o <;> rfl

theorem TimeUnit.readsBack : TimeUnit.decoder.ReadsBack TimeUnit.json 0 := by
  intro p unit d hp hd
  rw [eq_of_str_isSpelledBy hd]
  cases unit <;> rfl

/-! ## Filter values -/

namespace Scalar

theorem isScalar_json (s : Scalar) : s.json.IsScalar := by
  cases s with
  | number n => exact Or.inr ⟨n, rfl⟩
  | text s => exact Or.inl ⟨s, rfl⟩

theorem exists_json_of_isScalar {v : Json} (h : v.IsScalar) : ∃ s : Scalar, v = s.json := by
  rcases h with ⟨s, rfl⟩ | ⟨n, rfl⟩
  · exact ⟨.text s, rfl⟩
  · exact ⟨.number n, rfl⟩

theorem ofJson?_json (s : Scalar) : ofJson? s.json = some s := by
  cases s <;> rfl

theorem read_of_isSpelledBy
    (p : Place) (s : Scalar) (d : Draft) (h : s.json.isSpelledBy d = true) :
    d.read p = .ok s.json := by
  cases s with
  | number n =>
      rw [eq_of_num_isSpelledBy h]
      rfl
  | text s =>
      rw [eq_of_str_isSpelledBy h]
      rfl

theorem mapM_ofJson?_json (items : List Scalar) :
    (items.map json).mapM ofJson? = some items := by
  induction items with
  | nil => rfl
  | cons s rest ih => simp [ofJson?_json, ih]

/-- Only what a single filter value is written as is read as that value. -/
theorem eq_json_of_read
    {p : Place} {v w : Json} {s : Scalar}
    (hread : v.draft.read p = .ok w) (hs : ofJson? w = some s) :
    v = s.json := by
  cases v with
  | null => cases hread; cases hs
  | bool b => cases hread; cases hs
  | num n => cases hread; cases hs; rfl
  | str text => cases hread; cases hs; rfl
  | arr items =>
      obtain ⟨q, ws, -, rfl⟩ := exists_items_of_read_arr hread
      cases hs
  | obj members =>
      obtain ⟨read, rfl⟩ := exists_members_of_read_obj hread
      cases hs

theorem items_eq_of_readItems
    {p : Place} {items ws : List Json} {l : List Scalar} {i : Nat}
    (hread : readItems p i (draftItems items) = .ok ws) (hl : ws.mapM ofJson? = some l) :
    items = l.map json := by
  induction items generalizing ws l i with
  | nil =>
      cases hread
      cases hl
      rfl
  | cons v rest ih =>
      simp only [draftItems, readItems, bind, Except.bind] at hread
      cases hv : v.draft.read p with
      | error e => simp [hv, Decoder.within_error] at hread
      | ok w =>
          cases hws : readItems p (i + 1) (draftItems rest) with
          | error e => simp [hv, hws, Decoder.within_ok] at hread
          | ok ws' =>
              simp only [hv, hws, Decoder.within_ok] at hread
              cases hread
              rw [List.mapM_cons] at hl
              obtain ⟨s, hs, hl⟩ := Option.bind_eq_some_iff.mp hl
              obtain ⟨l', hl', hl⟩ := Option.bind_eq_some_iff.mp hl
              cases hl
              rw [List.map_cons, eq_json_of_read hv hs, ih hws hl']

end Scalar

namespace FilterValue

theorem ofJson?_json (value : FilterValue) : ofJson? value.json = some value := by
  cases value with
  | list items => exact congrArg (Option.map list) (Scalar.mapM_ofJson?_json items)
  | scalar s => cases s <;> rfl

theorem read_of_isSpelledBy
    (p : Place) (value : FilterValue) (d : Draft) (hp : p.Holds 1)
    (h : value.json.isSpelledBy d = true) :
    d.read p = .ok value.json := by
  cases value with
  | list items => exact read_of_arr_isSpelledBy Scalar.read_of_isSpelledBy hp h
  | scalar s => exact Scalar.read_of_isSpelledBy p s d h

theorem readsBack : decoder.ReadsBack json 1 :=
  Decoder.readsBack_untagged read_of_isSpelledBy ofJson?_json

theorem exists_json_iff (v : Json) : (∃ value : FilterValue, v = value.json) ↔ v.IsFilterValue := by
  constructor
  · rintro ⟨items | s, rfl⟩
    · refine Or.inr ⟨items.map Scalar.json, rfl, ?_⟩
      intro item hitem
      obtain ⟨s, -, rfl⟩ := List.mem_map.mp hitem
      exact s.isScalar_json
    · exact Or.inl s.isScalar_json
  · rintro (hscalar | ⟨items, rfl, hitems⟩)
    · obtain ⟨s, rfl⟩ := Scalar.exists_json_of_isScalar hscalar
      exact ⟨.scalar s, rfl⟩
    · have hlist : ∃ l : List Scalar, items = l.map Scalar.json := by
        induction items with
        | nil => exact ⟨[], rfl⟩
        | cons item rest ih =>
            obtain ⟨s, rfl⟩ := Scalar.exists_json_of_isScalar (hitems item List.mem_cons_self)
            obtain ⟨l, rfl⟩ := ih fun v hv => hitems v (List.mem_cons_of_mem _ hv)
            exact ⟨s :: l, rfl⟩
      obtain ⟨l, rfl⟩ := hlist
      exact ⟨.list l, rfl⟩

/-- Only what a filter value is written as is read as that value. -/
theorem eq_json_of_read
    {p : Place} {v w : Json} {value : FilterValue}
    (hread : v.draft.read p = .ok w) (hvalue : ofJson? w = some value) :
    v = value.json := by
  cases v with
  | arr items =>
      obtain ⟨q, ws, hws, rfl⟩ := exists_items_of_read_arr hread
      obtain ⟨l, hl, rfl⟩ := Option.map_eq_some_iff.mp hvalue
      exact congrArg Json.arr (Scalar.items_eq_of_readItems hws hl)
  | obj members =>
      obtain ⟨read, rfl⟩ := exists_members_of_read_obj hread
      cases hvalue
  | null => cases hread; cases hvalue
  | bool b => cases hread; cases hvalue
  | num n => cases hread; cases hvalue; rfl
  | str text => cases hread; cases hvalue; rfl

theorem decode_eq_ok_iff (v : Json) (value : FilterValue) :
    Json.decode decoder v = .ok value ↔ v = value.json := by
  constructor
  · intro h
    simp only [Json.decode, decoder, Decoder.untagged, Decoder.refine, Decoder.json] at h
    cases hread : v.draft.read .value with
    | error e => simp [hread] at h
    | ok w =>
        cases hchoose : ofJson? w with
        | none => simp [hread, hchoose] at h
        | some chosen =>
            simp only [hread, hchoose] at h
            cases h
            exact eq_json_of_read hread hchoose
  · rintro rfl
    exact Decoder.decode_draft_of_readsBack readsBack (show Place.value.Holds 1 from trivial) value

end FilterValue

/-! ## Records -/

theorem Selection.readsBack : decoder.ReadsBack json 1 := by
  refine Decoder.readsBack_record (fun s => (s.field, s.aggregate, s.outputAlias, ())) _
    (by decide) (fun _ => rfl) ?_
  intro q s hq
  refine .given Decoder.readsBack_string hq s.field ?_
  refine .given Aggregate.readsBack hq s.aggregate ?_
  exact .lastOptional Decoder.readsBack_string nofun hq s.outputAlias

theorem Filter.readsBack : decoder.ReadsBack json 2 := by
  refine Decoder.readsBack_record (fun f => (f.field, f.operator, f.value, ())) _
    (by decide) (fun _ => rfl) ?_
  intro q f hq
  have hflat : q.Holds 0 := hq.mono (Nat.zero_le 1)
  refine .given Decoder.readsBack_string hflat f.field ?_
  refine .given Operator.readsBack hflat f.operator ?_
  exact .given FilterValue.readsBack hq f.value .nil

namespace Config

theorem mapM_text?_str (names : List String) : (names.map Json.str).mapM text? = some names := by
  induction names with
  | nil => rfl
  | cons name rest ih => simp [text?, ih]

theorem readsBack_names : namesDecoder.ReadsBack Json.texts 1 := by
  have hlist : (Decoder.untagged "OneOrMany" names?).ReadsBack Json.texts 1 :=
    Decoder.readsBack_untagged
      (fun _ _ _ hp hd => read_of_arr_isSpelledBy (fun p s d h => by
        rw [eq_of_str_isSpelledBy h]; rfl) hp hd) mapM_text?_str
  intro p names d hp hd
  have hsome := hlist.optional nofun p (some names) d hp hd
  simp only [namesDecoder, Decoder.refine, hsome, Option.getD_some]

/-- A configuration as a JSON value.  An empty list of filters or group keys and a missing unit of
time are written only if `shown` says so. -/
def jsonShowing (shown : String → Bool) (c : Config) : Json :=
  .ofDict (Dict.ofList (List.flatten
    [ [("table", .str c.table), ("selects", .arr (c.selects.map Selection.json))],
      listMember shown "filters" (fun l => .arr (l.map Filter.json)) c.filters,
      listMember shown "groupBy" .texts c.groupBy,
      optionalMember shown "timeBucket" TimeUnit.json c.timeBucket ]))

theorem readsBack_showing (shown : String → Bool) : decoder.ReadsBack (jsonShowing shown) 4 := by
  refine Decoder.readsBack_record
    (fun c => (c.table, c.selects, c.filters, c.groupBy, c.timeBucket, ())) _
    (by decide) (fun _ => rfl) ?_
  intro q c hq
  have hflat : q.Holds 0 := hq.mono (Nat.zero_le 3)
  refine .given Decoder.readsBack_string hflat c.table ?_
  refine .given Selection.readsBack.list (hq.mono (by decide)) c.selects ?_
  refine .listMember Filter.readsBack.list hq _ c.filters ?_
  refine .listMember readsBack_names (hq.mono (by decide)) _ c.groupBy ?_
  exact .optionalMember TimeUnit.readsBack nofun hflat _ c.timeBucket .nil

theorem json_eq_jsonShowing (c : Config) : c.json = c.jsonShowing (· != "timeBucket") := by
  obtain ⟨table, selects, filters, groupBy, timeBucket⟩ := c
  cases timeBucket <;> rfl

theorem readsBack : decoder.ReadsBack json 4 := by
  intro p c d hp hd
  rw [json_eq_jsonShowing] at hd
  exact readsBack_showing _ p c d hp hd

/-- A configuration is read back from what it is written as, from the value and where it stands in
a text.  A JSON value is read as a filter value if and only if it is a string, a number or an array
of strings and numbers, and a value that is read as one is what that is written as. -/
theorem json_reads_back :
    (∀ c : Config, Json.decode decoder c.json = .ok c) ∧
      (∀ c : Config, decoder (.text Json.maxDepth) c.json.draft = .ok c) ∧
      (∀ v : Json, (∃ value, Json.decode FilterValue.decoder v = .ok value) ↔ v.IsFilterValue) ∧
      (∀ (v : Json) (value : FilterValue),
        Json.decode FilterValue.decoder v = .ok value → value.json = v) ∧
      (∀ n : Number, Json.decode FilterValue.decoder (.num n) = .ok (.scalar (.number n))) ∧
      (∀ text : String, Json.decode FilterValue.decoder (.str text) = .ok (.scalar (.text text))) ∧
      ∀ items : List Scalar,
        Json.decode FilterValue.decoder (.arr (items.map Scalar.json)) = .ok (.list items) := by
  have hvalue (value : FilterValue) : Json.decode FilterValue.decoder value.json = .ok value :=
    (FilterValue.decode_eq_ok_iff _ value).mpr rfl
  refine ⟨?_, ?_, ?_, ?_, ?_, ?_, ?_⟩
  · intro c
    exact Decoder.decode_draft_of_readsBack readsBack (show Place.value.Holds 4 from trivial) c
  · intro c
    have hdepth : (Place.text Json.maxDepth).Holds 4 := show 4 ≤ Json.maxDepth by decide
    exact Decoder.decode_draft_of_readsBack readsBack hdepth c
  · intro v
    rw [← FilterValue.exists_json_iff]
    exact exists_congr fun value => FilterValue.decode_eq_ok_iff v value
  · intro v value h
    exact ((FilterValue.decode_eq_ok_iff v value).mp h).symm
  · intro n
    exact hvalue (.scalar (.number n))
  · intro text
    exact hvalue (.scalar (.text text))
  · intro items
    exact hvalue (.list items)

end Config
end AnalyticsQuery
