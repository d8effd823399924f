import AnalyticsQuery.Decimal.Binary64

/-!
# The shortest decimal that reads back

`shortest m` gives, for the magnitude `m`, the decimal digits with their
exponent that has the fewest digits among the decimals that are rounded to `m`,
and among those the one nearest to `m`.

The decimals that are rounded to `m` fill an interval around its value; its
ends belong to it exactly when the mantissa is even.  If the interval holds a
point of a decimal grid, it holds one of the two points next to the value, so
trying those two on grids of one digit, two digits and so on finds the
shortest.
-/

namespace AnalyticsQuery
namespace Decimal

/-- The number of decimal digits of a natural number; one for zero. -/
def digitCount (n : Nat) : Nat :=
  (Nat.toDigits 10 n).length

/--
The interval of the ratios that are rounded to a magnitude: the value, its
lower and its upper end over a common denominator, and whether the ends belong
to it.
-/
structure Interval where
  value : Nat
  lower : Nat
  upper : Nat
  den : Nat
  closed : Bool

/-- The interval of a magnitude.  Below a power of two the numbers lie twice as close. -/
def Interval.of (magnitude : Nat) : Interval :=
  let m := Binary64.mantissaOf magnitude
  let unit := Nat.pow 2 (Binary64.scaleOf magnitude)
  { value := 4 * m * unit
    lower := (if m = Binary64.octave ∧ 2 * Binary64.octave ≤ magnitude then 4 * m - 1 else 4 * m - 2) * unit
    upper := (4 * m + 2) * unit
    den := Nat.pow 2 1076
    closed := m % 2 == 0 }

/-- Whether a ratio lies in an interval. -/
def Interval.holds (i : Interval) (num den : Nat) : Bool :=
  let x := num * i.den
  let below := i.lower * den
  let above := i.upper * den
  if i.closed then below ≤ x && x ≤ above else below < x && x < above

/-- The exponent of the leading decimal digit of a positive ratio. -/
def leadingExponent (num den : Nat) : Int :=
  if den ≤ num then (digitCount (num / den) : Int) - 1
  else -(digitCount ((den + num - 1) / num - 1) : Int)

/-- `digits * 10 ^ exponent` as a ratio. -/
def toRatio (digits : Nat) (exponent : Int) : Nat × Nat :=
  if 0 ≤ exponent then (digits * Nat.pow 10 exponent.toNat, 1)
  else (digits, Nat.pow 10 (-exponent).toNat)

/-- The point of the grid of step `10 ^ exponent` in an interval that is nearest to its value. -/
def Interval.gridPoint? (i : Interval) (exponent : Int) : Option Nat :=
  let step := toRatio 1 exponent
  let low := i.value * step.2 / (i.den * step.1)
  let fits (d : Nat) : Bool :=
    let r := toRatio d exponent
    i.holds r.1 r.2
  let lowFits := low != 0 && fits low
  let highFits := fits (low + 1)
  if lowFits && highFits then
    -- the distances from the value to both points, over one denominator
    let below := i.value * step.2 - low * (i.den * step.1)
    let above := (low + 1) * (i.den * step.1) - i.value * step.2
    if below < above then some low
    else if above < below then some (low + 1)
    else if low % 2 = 0 then some low else some (low + 1)
  else if lowFits then some low
  else if highFits then some (low + 1)
  else none

/-- A positive decimal: `digits * 10 ^ exponent`. -/
structure Digits where
  digits : Nat
  exponent : Int
deriving DecidableEq, Repr

/-- The shortest decimal that is rounded to a positive magnitude, the nearest of those. -/
def shortest (magnitude : Nat) : Digits :=
  let i := Interval.of magnitude
  let lead := leadingExponent i.value i.den
  let found := (List.range 17).findSome? fun (n : Nat) =>
    let exponent := lead - (n : Int)
    (i.gridPoint? exponent).map fun d => (⟨d, exponent⟩ : Digits)
  found.getD ⟨i.value / i.den, 0⟩

end Decimal
end AnalyticsQuery
