import AnalyticsQuery.Proofs.Text.Split
import AnalyticsQuery.Proofs.Url.Percent
import AnalyticsQuery.Url.Basic

/-!
# The target of a request

A target is a path and a query with a question mark between them.  The path of a
URL that was read from a text holds no question mark: one that is written ends
the path, and none is made by coding or by resolving dots.  So whoever reads the
target finds the whole query behind the first question mark, whatever else has
been appended to it.

* `question_not_mem_path`: the path of a URL holds no question mark.
* `splitFirst_target`: the query of a target begins behind its first question
  mark.
-/

namespace AnalyticsQuery
namespace Url

/-! ## Segments -/

/-- Coding brings in no question mark, and it takes those away that it is told to. -/
theorem question_of_mem_percentEncode
    {coded : Char → Bool} {cs : List Char} (h : '?' ∈ percentEncode coded cs) :
    coded '?' = false ∧ '?' ∈ cs := by
  have hdigit : ∀ n < 16, '?' ≠ upperHexDigit n := by decide
  rcases mem_percentEncode h with (hsign | ⟨n, hn, hhex⟩) | ⟨hmem, -, hplain⟩
  · cases hsign
  · exact absurd hhex (hdigit n hn)
  · exact ⟨hplain, hmem⟩

/-- Segments without question marks. -/
def Unqueried (parts : List (List Char)) : Prop :=
  ∀ part ∈ parts, '?' ∉ part

theorem Unqueried.append {parts others : List (List Char)} (h : Unqueried parts)
    (h' : Unqueried others) :
    Unqueried (parts ++ others) := by
  intro part hpart
  rcases List.mem_append.mp hpart with hpart | hpart
  · exact h part hpart
  · exact h' part hpart

theorem unqueried_empty : Unqueried [[]] := by
  simp [Unqueried]

theorem Unqueried.shorten {parts : List (List Char)} (h : Unqueried parts) (type : SchemeType) :
    Unqueried (shorten type parts) := by
  intro part hpart
  unfold Url.shorten at hpart
  split at hpart
  · split at hpart
    · exact h part hpart
    · cases hpart
  · exact h part ((List.dropLast_sublist parts).subset hpart)

theorem Unqueried.keptSegment
    {segment : List Char} (h : '?' ∉ segment) (type : SchemeType) (parts : List (List Char)) :
    Unqueried [keptSegment type parts segment] := by
  intro part hpart
  rw [List.mem_singleton] at hpart
  subst hpart
  unfold Url.keptSegment
  split
  · rename_i c d
    split
    · simp only [List.mem_cons, List.not_mem_nil, or_false, not_or] at h ⊢
      exact ⟨h.1, by decide⟩
    · exact h
  · exact h

theorem Unqueried.resolveSegments
    {segments : List (List Char)} (hsegments : Unqueried segments) (type : SchemeType)
    {parts : List (List Char)} (hparts : Unqueried parts) :
    Unqueried (resolveSegments type parts segments) := by
  -- Each segment leaves resolved parts behind, so the induction is for all of them.
  induction segments generalizing parts with
  | nil => exact hparts
  | cons segment rest ih =>
      have hrest : Unqueried rest := fun part hpart =>
        hsegments part (List.mem_cons_of_mem _ hpart)
      rw [Url.resolveSegments]
      split
      · apply ih hrest
        split
        · exact (hparts.shorten type).append unqueried_empty
        · exact hparts.shorten type
      · split
        · apply ih hrest
          split
          · exact hparts.append unqueried_empty
          · exact hparts
        · have hkept := Unqueried.keptSegment (hsegments segment List.mem_cons_self) type parts
          exact ih hrest (hparts.append hkept)

theorem unqueried_readSegments (type : SchemeType) (cs : List Char) :
    Unqueried (readSegments type cs) := by
  have hcoded :
      Unqueried ((splitSlashes type.isSpecial cs).map (percentEncode codedInPath)) := by
    intro part hpart hmem
    obtain ⟨segment, -, rfl⟩ := List.mem_map.mp hpart
    exact absurd (question_of_mem_percentEncode hmem).1 (by decide)
  have hnone : Unqueried [] := by simp [Unqueried]
  have hresolved := hcoded.resolveSegments type hnone
  unfold readSegments
  cases type with
  | file =>
      simp only
      split
      · exact unqueried_empty
      · intro part hpart
        exact hresolved part ((List.dropWhile_sublist _).subset hpart)
  | special => exact hresolved
  | other => exact hresolved

/-! ## Paths -/

theorem Unqueried.path {parts : List (List Char)} (h : Unqueried parts) :
    '?' ∉ (Path.segments parts).chars := by
  intro hmem
  obtain ⟨part, hpart, hc⟩ := List.mem_flatMap.mp hmem
  rcases List.mem_cons.mp hc with hc | hc
  · cases hc
  · exact h part hpart hc

theorem question_not_mem_readPath (type : SchemeType) (cs : List Char) :
    '?' ∉ (readPath type cs).chars := by
  unfold readPath
  split
  · apply Unqueried.path
    split
    · exact unqueried_empty
    · simp [Unqueried]
  · split
    · exact (unqueried_readSegments type _).path
    · exact (unqueried_readSegments type _).path

theorem question_not_mem_readHostless (type : SchemeType) (scheme cs : List Char) :
    '?' ∉ (readHostless type scheme cs).path.chars := by
  simp only [readHostless]
  split
  · exact (unqueried_readSegments type _).path
  · intro hmem
    have hwritten := (question_of_mem_percentEncode hmem).2
    exact Text.not_mem_splitFirst _ hwritten

theorem question_not_mem_readAuthority
    {type : SchemeType} {scheme cs : List Char} {url : Url}
    (h : readAuthority type scheme cs = .ok url) :
    '?' ∉ url.path.chars := by
  simp only [readAuthority, bind, Except.bind, pure, Except.pure] at h
  split at h
  · cases h
  · split at h
    · cases h
    · cases h
      exact question_not_mem_readPath type _

theorem unqueried_readFilePath (cs : List Char) : Unqueried (readFilePath cs) := by
  unfold readFilePath
  split
  · split
    · exact unqueried_readSegments _ _
    · exact unqueried_readSegments _ _
  · exact unqueried_empty

/-- With or without a host, the path of a file is read in one way. -/
theorem exists_path_of_readFile
    {scheme cs : List Char} {url : Url} (h : readFile scheme cs = .ok url) :
    ∃ written, url.path = .segments (readFilePath written) := by
  simp only [readFile, bind, Except.bind, pure, Except.pure] at h
  split at h
  · split at h
    · split at h
      · cases h
        exact ⟨_, rfl⟩
      · split at h
        · cases h
        · split at h
          · cases h
            exact ⟨_, rfl⟩
          · cases h
            exact ⟨_, rfl⟩
    · cases h
      exact ⟨_, rfl⟩
  · cases h
    exact ⟨_, rfl⟩

theorem question_not_mem_readFile
    {scheme cs : List Char} {url : Url} (h : readFile scheme cs = .ok url) :
    '?' ∉ url.path.chars := by
  obtain ⟨written, hpath⟩ := exists_path_of_readFile h
  rw [hpath]
  exact (unqueried_readFilePath written).path

/-- The path of a URL holds no question mark. -/
theorem question_not_mem_path {text : String} {url : Url} (h : parse text = .ok url) :
    '?' ∉ url.path.chars := by
  unfold parse at h
  split at h
  · cases h
  · split at h
    · exact question_not_mem_readFile h
    · exact question_not_mem_readAuthority h
    · split at h
      · exact question_not_mem_readAuthority h
      · cases h
        exact question_not_mem_readHostless _ _ _

/-- The query of a target is all that stands behind its first question mark. -/
theorem splitFirst_target
    {text : String} {url : Url} (h : parse text = .ok url) (query : List Char) :
    ∃ path, Text.splitFirst '?' ({ url with query := some query } : Url).target =
      (path, some query) := by
  have hpath := question_not_mem_path h
  refine ⟨if url.path.chars.isEmpty then ['/'] else url.path.chars, ?_⟩
  rw [target]
  apply Text.splitFirst_append_cons
  split
  · decide
  · exact hpath

end Url
end AnalyticsQuery
