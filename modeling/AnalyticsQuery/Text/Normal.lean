import AnalyticsQuery.Text.NormalTable
import AnalyticsQuery.Text.PointSet

/-!
# Canonical composition

Two texts that differ only in how marks are attached to letters have the same
composed form: every character is decomposed, marks that follow one another are
sorted by class, and what can be composed is composed again.
-/

namespace AnalyticsQuery
namespace Text

/-- A character that is equivalent to others. -/
structure Decomposition where
  point : Nat
  parts : List Nat
  /-- Whether the parts are composed to the character again. -/
  composed : Bool

/-- The decompositions of the rows of a table, the first one counted from `last`. -/
def decompositionsFrom (last : Nat) : List TableRow → List Decomposition
  | [] => []
  | row :: rest =>
      let point := last + row.number
      ⟨point, row.values, row.kind = 'C'⟩ :: decompositionsFrom point rest

/-- The decompositions of all characters but the Korean syllables. -/
def decompositions : List Decomposition :=
  decompositionsFrom 0 (tableRows decompositionLines)

/-- The combining classes of ranges, the first one counted from `last`. -/
def classesFrom (last : Nat) : List Nat → List (Nat × Nat × Nat)
  | gap :: span :: value :: rest =>
      (last + gap, last + gap + span, value) :: classesFrom (last + gap + span) rest
  | _ => []

/-- The combining classes other than zero. -/
def combiningClasses : List (Nat × Nat × Nat) :=
  classesFrom 0 (tableNumbers combiningClassLines)

/-- The combining class of a code point. -/
def combiningClass (n : Nat) : Nat :=
  match combiningClasses.find? fun r => r.1 ≤ n && n ≤ r.2.1 with
  | some r => r.2.2
  | none => 0

/-- The parts of a Korean syllable. -/
def syllableParts? (n : Nat) : Option (List Nat) :=
  if 0xAC00 ≤ n ∧ n ≤ 0xD7A3 then
    let s := n - 0xAC00
    let lead := 0x1100 + s / 588
    let vowel := 0x1161 + s % 588 / 28
    some (if s % 28 = 0 then [lead, vowel] else [lead, vowel, 0x11A7 + s % 28])
  else none

/-- The Korean syllable of two parts. -/
def syllable? (a b : Nat) : Option Nat :=
  if 0x1100 ≤ a ∧ a ≤ 0x1112 ∧ 0x1161 ≤ b ∧ b ≤ 0x1175 then
    some (0xAC00 + (a - 0x1100) * 588 + (b - 0x1161) * 28)
  else if 0xAC00 ≤ a ∧ a ≤ 0xD7A3 ∧ (a - 0xAC00) % 28 = 0 ∧ 0x11A8 ≤ b ∧ b ≤ 0x11C2 then
    some (a + (b - 0x11A7))
  else none

/-- The characters that a code point consists of; `depth` bounds how often parts have parts. -/
def decompose : Nat → Nat → List Nat
  | 0, n => [n]
  | depth + 1, n =>
      match syllableParts? n with
      | some parts => parts
      | none =>
          match decompositions.find? fun d => d.point = n with
          | some d => d.parts.flatMap (decompose depth)
          | none => [n]

/-- No character has parts of parts of parts of parts of parts. -/
def decompositionDepth : Nat := 5

/-- Put a code point before the marks of a higher class that the list begins with. -/
def insertMark (n : Nat) : List Nat → List Nat
  | [] => [n]
  | m :: rest =>
      if combiningClass m ≠ 0 ∧ combiningClass m < combiningClass n then m :: insertMark n rest
      else n :: m :: rest

/-- Sort marks that follow one another by class; those of one class keep their order. -/
def sortMarks : List Nat → List Nat
  | [] => []
  | n :: rest =>
      if combiningClass n = 0 then n :: sortMarks rest else insertMark n (sortMarks rest)

/-- The character that two characters are composed to. -/
def compose? (a b : Nat) : Option Nat :=
  match syllable? a b with
  | some s => some s
  | none =>
      (decompositions.find? fun d => d.composed && d.parts == [a, b]).map Decomposition.point

/-- A text whose last letters are being composed. -/
structure Composer where
  /-- All before the letter, in reverse order. -/
  done : List Nat
  /-- The last character of class zero. -/
  starter : Option Nat
  /-- The marks after it that were not composed, in reverse order. -/
  marks : List Nat

/-- Compose a further code point. -/
def Composer.push (c : Composer) (n : Nat) : Composer :=
  match c.starter with
  | none =>
      if combiningClass n = 0 then { c with starter := some n }
      else { c with done := n :: c.done }
  | some s =>
      -- a mark of the same or a higher class in between blocks the composition
      let blocked :=
        match c.marks with
        | [] => false
        | m :: _ => combiningClass n ≤ combiningClass m
      match if blocked then none else compose? s n with
      | some t => { c with starter := some t }
      | none =>
          if combiningClass n = 0 then ⟨c.marks ++ s :: c.done, some n, []⟩
          else { c with marks := n :: c.marks }

/-- The text that has been composed. -/
def Composer.finish (c : Composer) : List Nat :=
  (c.marks ++ c.starter.toList ++ c.done).reverse

/-- The composed form of a text. -/
def composed (points : List Nat) : List Nat :=
  ((sortMarks (points.flatMap (decompose decompositionDepth))).foldl Composer.push
    ⟨[], none, []⟩).finish

end Text
end AnalyticsQuery
