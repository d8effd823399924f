/-!
# Splitting a text at a character

Splitting keeps empty parts, so that joining the parts with the separator gives
the text back; this is the main statement.
-/

namespace AnalyticsQuery
namespace Text

/-- The parts of a text between the occurrences of a separator. -/
def splitOn (separator : Char) : List Char → List (List Char)
  | [] => [[]]
  | c :: rest =>
      if c = separator then [] :: splitOn separator rest
      else
        match splitOn separator rest with
        | [] => [[c]]
        | part :: parts => (c :: part) :: parts

theorem splitOn_ne_nil (separator : Char) (cs : List Char) : splitOn separator cs ≠ [] := by
  cases cs with
  | nil => simp [splitOn]
  | cons c rest =>
      simp only [splitOn]
      split
      · simp
      · split <;> simp

theorem intercalate_splitOn (separator : Char) (cs : List Char) :
    List.intercalate [separator] (splitOn separator cs) = cs := by
  induction cs with
  | nil => simp [splitOn, List.intercalate]
  | cons c rest ih =>
      simp only [splitOn]
      split
      · rename_i h
        subst h
        rcases hs : splitOn c rest with _ | ⟨part, parts⟩
        · exact absurd hs (splitOn_ne_nil c rest)
        · rw [hs] at ih
          simp only [List.intercalate, List.intersperse] at ih ⊢
          simp [ih]
      · split
        · rename_i hs
          exact absurd hs (splitOn_ne_nil separator rest)
        · rename_i part parts hs
          rw [hs] at ih
          cases parts with
          | nil => simpa [List.intercalate, List.intersperse] using ih
          | cons second others =>
              simp only [List.intercalate, List.intersperse, List.flatten_cons] at ih ⊢
              simpa using ih

/-- The part before the first occurrence of a separator, and what follows it. -/
def splitFirst (separator : Char) (cs : List Char) : List Char × Option (List Char) :=
  match cs.dropWhile (· != separator) with
  | [] => (cs, none)
  | _ :: rest => (cs.takeWhile (· != separator), some rest)

/-- Whether a text occurs in another one. -/
def occurs (part : List Char) : List Char → Bool
  | [] => part.isEmpty
  | c :: rest => part.isPrefixOf (c :: rest) || occurs part rest

end Text
end AnalyticsQuery
