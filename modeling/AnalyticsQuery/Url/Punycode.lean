/-!
# Punycode

A label with characters outside ASCII is written in ASCII: first its ASCII
characters, then, for each other character in ascending order, how far it lies
from the one before, counted over all places of the text.  The distances are
written in base 36 with digits of a changing weight.
-/

namespace AnalyticsQuery
namespace Url
namespace Punycode

/-- The digit of a number below 36: letters first. -/
def digitChar (d : Nat) : Char :=
  if d < 26 then Char.ofNat (97 + d) else Char.ofNat (22 + d)

/-- The number of a digit in either letter case. -/
def digitValue? (c : Char) : Option Nat :=
  let n := c.toNat
  if 97 ≤ n ∧ n ≤ 122 then some (n - 97)
  else if 65 ≤ n ∧ n ≤ 90 then some (n - 65)
  else if 48 ≤ n ∧ n ≤ 57 then some (n - 22)
  else none

/-- A digit below the threshold of its place is the last one of a number. -/
def threshold (place bias : Nat) : Nat :=
  if place ≤ bias then 1 else if bias + 26 ≤ place then 26 else place - bias

theorem threshold_pos (place bias : Nat) : 1 ≤ threshold place bias := by
  unfold threshold
  split
  · omega
  · split <;> omega

/-- Divide by 35 until at most 455 is left; the second number counts 36 for each step. -/
def reduce (delta k : Nat) : Nat × Nat :=
  if 455 < delta then reduce (delta / 35) (k + 36) else (delta, k)
termination_by delta
decreasing_by exact Nat.div_lt_self (by omega) (by omega)

/-- The bias after a distance, for a text of so many characters. -/
def adapt (delta count : Nat) (first : Bool) : Nat :=
  let halved := if first then delta / 700 else delta / 2
  let r := reduce (halved + halved / count) 0
  r.2 + 36 * r.1 / (r.1 + 38)

/-- The digits of a distance from a place on. -/
def distanceDigits (bias place q : Nat) : List Char :=
  let t := threshold place bias
  if q < t then [digitChar q]
  else
    digitChar (t + (q - t) % (36 - t)) :: distanceDigits bias (place + 36) ((q - t) / (36 - t))
termination_by q
decreasing_by
  have h := threshold_pos place bias
  calc (q - threshold place bias) / (36 - threshold place bias)
      ≤ q - threshold place bias := Nat.div_le_self _ _
    _ < q := by omega

/-- The state of writing. -/
structure Writer where
  /-- The digits written so far. -/
  output : List Char
  delta : Nat
  bias : Nat
  /-- The number of characters that are written. -/
  written : Nat

/-- Pass over a character of the text while the characters `m` are written. -/
def Writer.step (basic m : Nat) (w : Writer) (c : Char) : Writer :=
  if c.toNat < m then { w with delta := w.delta + 1 }
  else if c.toNat = m then
    { output := w.output ++ distanceDigits w.bias 36 w.delta
      delta := 0
      bias := adapt w.delta (w.written + 1) (w.written == basic)
      written := w.written + 1 }
  else w

/-- Write the characters of a list of code points one after another; `n` is the next one. -/
def writeAll (text : List Char) (basic : Nat) : List Nat → Nat → Writer → Writer
  | [], _, w => w
  | m :: rest, n, w =>
      let w := { w with delta := w.delta + (m - n) * (w.written + 1) }
      let w := text.foldl (Writer.step basic m) w
      writeAll text basic rest (m + 1) { w with delta := w.delta + 1 }

/-- Put a number into an ascending list unless it is there. -/
def insertNew (n : Nat) : List Nat → List Nat
  | [] => [n]
  | m :: rest => if n < m then n :: m :: rest else if n = m then m :: rest else m :: insertNew n rest

/-- The Punycode of a text. -/
def encode (text : List Char) : List Char :=
  let basic := text.filter fun c => c.toNat < 128
  let others := text.foldl (fun l c => if c.toNat < 128 then l else insertNew c.toNat l) []
  let start : Writer := ⟨[], 0, 72, basic.length⟩
  basic ++ (if basic.isEmpty then [] else ['-']) ++
    (writeAll text basic.length others 128 start).output

/-- The state of reading. -/
structure Reader where
  output : List Char
  /-- The code point of the character read last. -/
  point : Nat
  /-- The place of that character in the text. -/
  index : Nat
  bias : Nat
  /-- The distance as far as it is read. -/
  distance : Nat
  weight : Nat
  place : Nat

/-- The numbers that distances stay below. -/
def distanceLimit : Nat := 4294967296

/-- Read a character whose distance has been read. -/
def Reader.insert? (r : Reader) : Option Reader :=
  let count := r.output.length + 1
  let total := r.index + r.distance
  let point := r.point + total / count
  let index := total % count
  if h : point.isValidChar then
    some
      { output := r.output.take index ++ Char.ofNatAux point h :: r.output.drop index
        point := point
        index := index + 1
        bias := adapt r.distance count (r.index == 0)
        distance := 0
        weight := 1
        place := 36 }
  else none

/-- Read the digits of all distances. -/
def readDigits : Reader → List Char → Option (List Char)
  | r, [] => if r.place = 36 then some r.output else none
  | r, c :: rest =>
      match digitValue? c with
      | none => none
      | some d =>
          let distance := r.distance + d * r.weight
          let t := threshold r.place r.bias
          if distanceLimit ≤ distance then none
          else if d < t then
            match { r with distance := distance }.insert? with
            | some r => readDigits r rest
            | none => none
          else
            let weight := r.weight * (36 - t)
            if distanceLimit ≤ weight then none
            else
              readDigits { r with distance := distance, weight := weight, place := r.place + 36 }
                rest

/-- The text of a Punycode. -/
def decode? (code : List Char) : Option (List Char) :=
  let tail := (code.reverse.takeWhile (· != '-')).reverse
  let basic := (code.take (code.length - tail.length)).dropLast
  if basic.all fun c => c.toNat < 128 then
    readDigits ⟨basic, 128, 0, 72, 0, 1, 36⟩ tail
  else none

end Punycode
end Url
end AnalyticsQuery
