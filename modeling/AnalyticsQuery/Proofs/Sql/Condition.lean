import AnalyticsQuery.Proofs.Sql.Lexer
import AnalyticsQuery.Query.Operator
import Mathlib.Data.List.Infix

/-!
# The truth of a condition

A condition on a text column is given as tokens.  It is true or false of a row
and of the values that are bound to its placeholders, and the way in which it
was made plays no part in that.

* `=` and `!=` compare two texts, `IN` and `NOT IN` look a text up in a list.
* `LIKE` matches a text with a pattern, where `%` stands for any run of
  characters, `_` for any one, and a character behind a backslash for itself.
* `startsWith` asks for a prefix.

A condition of another form, or one whose placeholder has another type than its
value, has no truth value.

The main statement is `like_containing`: the pattern of the texts that hold a
given text matches exactly these texts, whatever characters the text has.
-/

namespace AnalyticsQuery
namespace Sql

/-! ## Patterns -/

/-- Whether a text begins with a character of a kind and goes on in some way. -/
def beginsWith (kind : Char → Bool) (goesOn : List Char → Bool) : List Char → Bool
  | [] => false
  | c :: text => kind c && goesOn text

/-- Whether a pattern matches a text; a backslash at the end of a pattern matches nothing. -/
def like : List Char → List Char → Bool
  | [], text => text.isEmpty
  | c :: pattern, text =>
      if c = '%' then text.tails.any (like pattern)
      else if c = '_' then beginsWith (fun _ => true) (like pattern) text
      else if c = '\\' then
        match pattern with
        | [] => false
        | d :: pattern => beginsWith (· == d) (like pattern) text
      else beginsWith (· == c) (like pattern) text

theorem beginsWith_iff
    {kind : Char → Bool} {goesOn : List Char → Bool} {text : List Char} :
    beginsWith kind goesOn text = true ↔
      ∃ c rest, text = c :: rest ∧ kind c = true ∧ goesOn rest = true := by
  cases text with
  | nil => simp [beginsWith]
  | cons c rest => simp [beginsWith]

theorem like_run (pattern text : List Char) :
    like ('%' :: pattern) text = true ↔ ∃ rest, rest <:+ text ∧ like pattern rest = true := by
  rw [like.eq_def]
  simp [List.any_eq_true, List.mem_tails]

/-- What was escaped for a pattern matches itself and nothing else. -/
theorem like_patternChar (c : Char) (pattern text : List Char) :
    like (Operator.patternChar c ++ pattern) text = true ↔
      ∃ rest, text = c :: rest ∧ like pattern rest = true := by
  have hself : beginsWith (· == c) (like pattern) text = true ↔
      ∃ rest, text = c :: rest ∧ like pattern rest = true := by
    rw [beginsWith_iff]
    constructor
    · rintro ⟨d, rest, rfl, hd, hrest⟩
      exact ⟨rest, by rw [beq_iff_eq.mp hd], hrest⟩
    · rintro ⟨rest, rfl, hrest⟩
      exact ⟨c, rest, rfl, beq_self_eq_true c, hrest⟩
  rw [← hself, Operator.patternChar]
  -- A special character stands behind a backslash, any other character by itself.
  split
  · rw [List.cons_append, List.singleton_append, like.eq_def]
    simp
  · rename_i hplain
    simp only [not_or] at hplain
    obtain ⟨hback, hrun, hone⟩ := hplain
    rw [List.singleton_append, like.eq_def]
    simp [hback, hrun, hone]

theorem like_flatMap_patternChar (s pattern text : List Char) :
    like (s.flatMap Operator.patternChar ++ pattern) text = true ↔
      ∃ rest, text = s ++ rest ∧ like pattern rest = true := by
  induction s generalizing text with
  | nil => simp
  | cons c s ih =>
      rw [List.flatMap_cons, List.append_assoc, like_patternChar]
      constructor
      · rintro ⟨rest, rfl, hrest⟩
        obtain ⟨tail, rfl, htail⟩ := (ih rest).mp hrest
        exact ⟨tail, rfl, htail⟩
      · rintro ⟨tail, rfl, htail⟩
        exact ⟨s ++ tail, rfl, (ih (s ++ tail)).mpr ⟨tail, rfl, htail⟩⟩

/-- The pattern that is made of a text matches the texts that hold it. -/
theorem like_containing (s x : String) :
    like (Operator.containing s).toList x.toList = true ↔ s.toList <:+: x.toList := by
  have hend : ∀ text : List Char, like ['%'] text = true := by
    intro text
    exact (like_run [] text).mpr ⟨[], List.nil_suffix, rfl⟩
  rw [Operator.containing, String.toList_ofList, List.cons_append, like_run]
  constructor
  · rintro ⟨middle, ⟨front, hfront⟩, hmiddle⟩
    obtain ⟨back, rfl, -⟩ := (like_flatMap_patternChar s.toList ['%'] middle).mp hmiddle
    exact ⟨front, back, by rw [List.append_assoc, hfront]⟩
  · rintro ⟨front, back, htext⟩
    refine ⟨s.toList ++ back, ⟨front, by rw [← List.append_assoc, htext]⟩, ?_⟩
    exact (like_flatMap_patternChar s.toList ['%'] _).mpr ⟨back, rfl, hend back⟩

/-! ## Conditions -/

section Truth

variable (row : String → Option String) (params : String → Option Binding)

/-- Compare the text in a column with a bound text. -/
def withText (column parameter : String) (test : String → String → Bool) : Option Bool :=
  match row column, params parameter with
  | some x, some (.text value) => some (test x value)
  | _, _ => none

/-- Compare the text in a column with a bound list. -/
def withTexts (column parameter : String) (test : String → List String → Bool) : Option Bool :=
  match row column, params parameter with
  | some x, some (.texts values) => some (test x values)
  | _, _ => none

/-- The truth of a condition of a row and of bound values. -/
def holds? : List Token → Option Bool
  | [.name column, .sign "=", .placeholder parameter "String"] =>
      withText row params column parameter fun x value => x == value
  | [.name column, .sign "!=", .placeholder parameter "String"] =>
      withText row params column parameter fun x value => x != value
  | [.name column, .keyword "like", .placeholder parameter "String"] =>
      withText row params column parameter fun x value => like value.toList x.toList
  | [.name column, .keyword "not", .keyword "like", .placeholder parameter "String"] =>
      withText row params column parameter fun x value => !like value.toList x.toList
  | [.name "startsWith", .sign "(", .name column, .sign ",", .placeholder parameter "String",
        .sign ")"] =>
      withText row params column parameter fun x value => value.toList.isPrefixOf x.toList
  | [.name column, .keyword "in", .placeholder parameter "Array(String)"] =>
      withTexts row params column parameter fun x values => values.contains x
  | [.name column, .keyword "not", .keyword "in", .placeholder parameter "Array(String)"] =>
      withTexts row params column parameter fun x values => !values.contains x
  | _ => none

variable {row params} {column parameter x : String}

theorem withText_eq
    {value : String} (hrow : row column = some x)
    (hparams : params parameter = some (.text value)) (test : String → String → Bool) :
    withText row params column parameter test = some (test x value) := by
  simp only [withText, hrow, hparams]

theorem withTexts_eq
    {values : List String} (hrow : row column = some x)
    (hparams : params parameter = some (.texts values)) (test : String → List String → Bool) :
    withTexts row params column parameter test = some (test x values) := by
  simp only [withTexts, hrow, hparams]

end Truth

end Sql
end AnalyticsQuery
