import AnalyticsQuery.Text.Split

/-!
# Tables of code points

A set of code points is a list of ranges in ascending order.  The large tables
of the Unicode standard are kept as text, in rows set apart by blanks.  Their
numbers are written in base 36 with small letters, and a row may hold a capital
letter, which says what kind of row it is.
-/

namespace AnalyticsQuery
namespace Text

/-- The value of a digit in base 36. -/
def digit36 (c : Char) : Nat :=
  if c.isDigit then c.toNat - 48 else c.toNat - 87

/-- The number that a word in base 36 stands for. -/
def number36 (cs : List Char) : Nat :=
  cs.foldl (fun n c => 36 * n + digit36 c) 0

/-- The words of the lines of a table. -/
def tableWords (lines : List String) : List (List Char) :=
  lines.flatMap fun line => splitOn ' ' line.toList

/-- A row of a table: a number, the letter for its kind, and more numbers. -/
structure TableRow where
  number : Nat
  kind : Char
  values : List Nat

/-- The row that a word stands for. -/
def TableRow.ofWord (word : List Char) : TableRow :=
  let number := number36 (word.takeWhile fun c => !c.isUpper)
  match word.dropWhile fun c => !c.isUpper with
  | [] => ⟨number, ' ', []⟩
  | [kind] => ⟨number, kind, []⟩
  | kind :: rest => ⟨number, kind, (splitOn ',' rest).map number36⟩

/-- The rows of the lines of a table. -/
def tableRows (lines : List String) : List TableRow :=
  (tableWords lines).map TableRow.ofWord

/-- The numbers in the lines of a table. -/
def tableNumbers (lines : List String) : List Nat :=
  (tableWords lines).map number36

/-- A set of code points as ranges with both ends included. -/
structure PointSet where
  ranges : List (Nat × Nat)

namespace PointSet

/-- Whether a code point belongs to a set. -/
def contains (s : PointSet) (n : Nat) : Bool :=
  s.ranges.any fun r => r.1 ≤ n && n ≤ r.2

/-- The ranges with the given distances, the first one counted from `last`. -/
def rangesFrom (last : Nat) : List Nat → List (Nat × Nat)
  | gap :: span :: rest =>
      (last + gap, last + gap + span) :: rangesFrom (last + gap + span) rest
  | _ => []

/-- The set that the lines of a table describe. -/
def ofLines (lines : List String) : PointSet where
  ranges := rangesFrom 0 (tableNumbers lines)

end PointSet

/-- A property of code points: ranges with a letter for each. -/
structure PointMap where
  ranges : List (Nat × Nat × Char)

namespace PointMap

/-- The letter of a code point. -/
def get? (m : PointMap) (n : Nat) : Option Char :=
  (m.ranges.find? fun r => r.1 ≤ n && n ≤ r.2.1).map fun r => r.2.2

/-- The ranges of the rows of a table, the first one counted from `last`. -/
def rangesFrom (last : Nat) : List TableRow → List (Nat × Nat × Char)
  | [] => []
  | row :: rest =>
      let first := last + row.number
      let span := row.values.headD 0
      (first, first + span, row.kind) :: rangesFrom (first + span) rest

/-- The property that the lines of a table describe. -/
def ofLines (lines : List String) : PointMap where
  ranges := rangesFrom 0 (tableRows lines)

end PointMap
end Text
end AnalyticsQuery
