import AnalyticsQuery.Text.Split
import Mathlib.Data.List.TakeWhile

/-!
# Parts of joined texts

A text that is put together with separators falls into its parts again, as long
as these do not hold the separator themselves.

* `splitOn_append_cons`: a separator parts what stands before it from what
  stands behind it.
* `splitFirst_append_cons`: the first separator is found behind a part without
  one.
-/

namespace AnalyticsQuery
namespace Text

variable {separator : Char}

/-- The parts before a separator and the parts behind it have nothing to do with each other. -/
theorem splitOn_append_cons (before after : List Char) :
    splitOn separator (before ++ separator :: after) =
      splitOn separator before ++ splitOn separator after := by
  induction before with
  | nil => simp [splitOn]
  | cons c rest ih =>
      simp only [List.cons_append, splitOn, ih]
      split
      · rfl
      · cases hrest : splitOn separator rest with
        | nil => exact absurd hrest (splitOn_ne_nil separator rest)
        | cons part parts => rfl

theorem splitOn_of_not_mem {cs : List Char} (h : separator ∉ cs) :
    splitOn separator cs = [cs] := by
  induction cs with
  | nil => rfl
  | cons c rest ih =>
      obtain ⟨hc, hrest⟩ := List.ne_and_not_mem_of_not_mem_cons h
      rw [splitOn, if_neg hc.symm, ih hrest]

/-- Changing characters, but none to or from the separator, changes the parts. -/
theorem splitOn_map {f : Char → Char} (hf : ∀ c, f c = separator ↔ c = separator)
    (cs : List Char) :
    splitOn separator (cs.map f) = (splitOn separator cs).map (List.map f) := by
  induction cs with
  | nil => rfl
  | cons c rest ih =>
      rw [List.map_cons, splitOn, splitOn, ih]
      by_cases hc : c = separator
      · rw [if_pos ((hf c).mpr hc), if_pos hc]
        rfl
      · rw [if_neg fun h => hc ((hf c).mp h), if_neg hc]
        cases splitOn separator rest with
        | nil => rfl
        | cons part parts => rfl

theorem mem_of_mem_splitOn {cs part : List Char} (h : part ∈ splitOn separator cs) {c : Char}
    (hc : c ∈ part) : c ∈ cs := by
  induction cs generalizing part with
  | nil =>
      rw [splitOn, List.mem_singleton] at h
      rwa [h] at hc
  | cons d rest ih =>
      rw [splitOn] at h
      split at h
      · rcases List.mem_cons.mp h with rfl | h
        · cases hc
        · exact List.mem_cons_of_mem d (ih h hc)
      · split at h
        · rename_i hnil
          exact absurd hnil (splitOn_ne_nil separator rest)
        · rename_i head parts hparts
          rw [hparts] at ih
          rcases List.mem_cons.mp h with rfl | h
          · rcases List.mem_cons.mp hc with rfl | hc
            · exact List.mem_cons_self
            · exact List.mem_cons_of_mem d (ih List.mem_cons_self hc)
          · exact List.mem_cons_of_mem d (ih (List.mem_cons_of_mem head h) hc)

/-- Joined parts fall apart again when none of them holds the separator. -/
theorem splitOn_intercalate {parts : List (List Char)} (hne : parts ≠ [])
    (h : ∀ part ∈ parts, separator ∉ part) :
    splitOn separator (List.intercalate [separator] parts) = parts := by
  induction parts with
  | nil => exact absurd rfl hne
  | cons part rest ih =>
      have hpart := splitOn_of_not_mem (h part List.mem_cons_self)
      cases rest with
      | nil => rw [List.intercalate_singleton, hpart]
      | cons other rest =>
          have hrest := ih (List.cons_ne_nil other rest)
            fun found hfound => h found (List.mem_cons_of_mem part hfound)
          rw [List.intercalate_cons_cons, List.append_assoc, List.singleton_append,
            splitOn_append_cons, hpart, hrest, List.singleton_append]

/-- What stands before the first separator is the first part. -/
theorem splitOn_append {before : List Char} (h : separator ∉ before) (after : List Char) :
    splitOn separator (before ++ after) =
      (splitOn separator after).modifyHead (before ++ ·) := by
  cases hafter : splitOn separator after with
  | nil => exact absurd hafter (splitOn_ne_nil separator after)
  | cons part parts =>
      induction before with
      | nil => exact hafter
      | cons c rest ih =>
          obtain ⟨hc, hrest⟩ := List.ne_and_not_mem_of_not_mem_cons h
          rw [List.cons_append, splitOn, if_neg hc.symm, ih hrest]
          rfl

theorem splitFirst_append_cons {before : List Char} (h : separator ∉ before) (after : List Char) :
    splitFirst separator (before ++ separator :: after) = (before, some after) := by
  have hother : ∀ c ∈ before, (c != separator) = true := by
    intro c hc
    rw [bne_iff_ne]
    rintro rfl
    exact h hc
  unfold splitFirst
  rw [List.dropWhile_append_of_pos hother, List.takeWhile_append_of_pos hother]
  simp

/-- The part before the first separator has none. -/
theorem not_mem_splitFirst (cs : List Char) : separator ∉ (splitFirst separator cs).1 := by
  unfold splitFirst
  intro hmem
  split at hmem
  · rename_i hdrop
    have hall := List.dropWhile_eq_nil_iff.mp hdrop separator hmem
    simp at hall
  · have hkept := List.mem_takeWhile_imp hmem
    simp at hkept

end Text
end AnalyticsQuery
