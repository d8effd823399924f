/-!
# Finite binary64 numbers

A finite binary64 number is a sign and a magnitude.  The magnitudes are
numbered in ascending order: `magnitude` counts the representable magnitudes
below it, which is the value of the number's bit pattern without the sign bit.
The number zero has magnitude 0 and exists with both signs.

All arithmetic is exact arithmetic on ratios of natural numbers followed by one
rounding, `roundRatio`, to the nearest magnitude, a tie going to the even one.
-/

namespace AnalyticsQuery

/-- The number of magnitudes from one power of two to the next. -/
def Binary64.octave : Nat := 4503599627370496

/-- The least magnitude number that is no finite number any more. -/
def Binary64.limit : Nat := 2047 * Binary64.octave

/-- A finite binary64 number. -/
structure Binary64 where
  negative : Bool
  magnitude : Nat
  finite : magnitude < Binary64.limit
deriving DecidableEq

namespace Binary64

/-- Zero with a given sign. -/
def zero (negative : Bool) : Binary64 where
  negative := negative
  magnitude := 0
  finite := by decide

instance : Inhabited Binary64 := ⟨zero false⟩

/-- The integer mantissa of a magnitude. -/
def mantissaOf (magnitude : Nat) : Nat :=
  if magnitude < octave then magnitude else octave + magnitude % octave

/-- The power of two, counted from `2 ^ (-1074)`, that scales the mantissa. -/
def scaleOf (magnitude : Nat) : Nat :=
  magnitude / octave - 1

/-- A magnitude as a ratio of natural numbers. -/
def ratioOf (magnitude : Nat) : Nat × Nat :=
  (mantissaOf magnitude * Nat.pow 2 (scaleOf magnitude), Nat.pow 2 1074)

/-- The quotient of two numbers rounded to the nearest integer, a tie to the even one. -/
def roundDiv (num den : Nat) : Nat :=
  let q := num / den
  let r := num % den
  if 2 * r < den then q
  else if den < 2 * r then q + 1
  else if q % 2 = 0 then q
  else q + 1

/--
The magnitude nearest to `num / den`, a tie going to the even one; at least
`limit` when that is too large for a finite number.

The quotient of the scaled ratio has 53 binary digits, or fewer where the
scale is the least one.
-/
def roundRatio (num den : Nat) : Nat :=
  if num = 0 then 0
  else
    let guess := (num.log2 : Int) - den.log2 - 53
    let whole (e : Int) : Nat × Nat :=
      if e < 0 then (num * Nat.pow 2 (-e).toNat, den) else (num, den * Nat.pow 2 e.toNat)
    let first := whole guess
    let e := if 2 * octave ≤ first.1 / first.2 then guess + 1 else guess
    let e := if e < -1074 then -1074 else e
    let scaled := whole e
    (e + 1074).toNat * octave + roundDiv scaled.1 scaled.2

/-- A number with the given sign and magnitude, if the magnitude is finite. -/
def ofMagnitude? (negative : Bool) (magnitude : Nat) : Option Binary64 :=
  if h : magnitude < limit then some ⟨negative, magnitude, h⟩ else none

/-- The number nearest to a ratio, if it is finite. -/
def ofRatio? (negative : Bool) (num den : Nat) : Option Binary64 :=
  ofMagnitude? negative (roundRatio num den)

/-- The number nearest to an integer, if it is finite. -/
def ofInt? (n : Int) : Option Binary64 :=
  ofRatio? (decide (n < 0)) n.natAbs 1

/-- The number nearest to `digits * 10 ^ exponent`, if it is finite. -/
def ofDecimal? (negative : Bool) (digits : Nat) (exponent : Int) : Option Binary64 :=
  if digits = 0 then some (zero negative)
  else
    let size := (digits.log2 : Int) / 4 + exponent
    if 400 < size then none
    else if (digits.log2 : Int) + exponent < -400 then some (zero negative)
    else if 0 ≤ exponent then ofRatio? negative (digits * Nat.pow 10 exponent.toNat) 1
    else ofRatio? negative digits (Nat.pow 10 (-exponent).toNat)

/-- The product of two numbers, rounded, if it is finite. -/
def mul? (a b : Binary64) : Option Binary64 :=
  let x := ratioOf a.magnitude
  let y := ratioOf b.magnitude
  ofRatio? (a.negative != b.negative) (x.1 * y.1) (x.2 * y.2)

/-- The quotient of two numbers, rounded, if it is finite; no quotient by zero. -/
def div? (a b : Binary64) : Option Binary64 :=
  let x := ratioOf a.magnitude
  let y := ratioOf b.magnitude
  if y.1 = 0 then none
  else ofRatio? (a.negative != b.negative) (x.1 * y.2) (x.2 * y.1)

end Binary64
end AnalyticsQuery
