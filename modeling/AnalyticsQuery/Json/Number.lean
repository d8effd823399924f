import AnalyticsQuery.Json.Basic
import AnalyticsQuery.Json.Fault

/-!
# Numbers in a JSON text

An integer of the 64-bit range is exact.  Any other number becomes a binary64
number in three steps: its leading digits are collected as long as they fit an
unsigned 64-bit integer, that integer is rounded once, and the result is
multiplied or divided by a rounded power of ten.  Digits that no longer fit
count only through the decimal exponent, so the result may differ from the
nearest number in its last binary digit.
-/

namespace AnalyticsQuery
namespace Json

/-- The least integer that the collected digits must stay below. -/
def significandLimit : Nat := 18446744073709551616

/--
The digits of a number without its sign: how many of the leading digits were
collected, and the decimal exponent that the others left behind.
-/
structure Scanned where
  significand : Nat
  exponent : Int
  /-- Whether the number has neither a point nor an exponent nor uncollected digits. -/
  exact : Bool
  /-- Whether the written exponent is too large to be taken into account. -/
  overflow : Option Bool

/-- Collect digits into a significand as long as it stays below the limit. -/
def collect : Nat → List Char → Nat × List Char
  | n, [] => (n, [])
  | n, c :: rest =>
      let next := 10 * n + (c.toNat - 48)
      if next < significandLimit then collect next rest else (n, c :: rest)

/-- A significand as a binary64 number. -/
def roundedSignificand (n : Nat) : Binary64 :=
  (Binary64.ofRatio? false n 1).getD (Binary64.zero false)

/-- The power of ten for an exponent up to 308, rounded. -/
def roundedPower (k : Nat) : Binary64 :=
  (Binary64.ofRatio? false (Nat.pow 10 k) 1).getD (Binary64.zero false)

/--
Divide by `10 ^ k`, in steps of at most `10 ^ 308`; `steps` bounds their
number.  A quotient of zero stays zero.
-/
def divideByPower : Nat → Binary64 → Nat → Binary64
  | 0, f, _ => f
  | steps + 1, f, k =>
      if k ≤ 308 then (f.div? (roundedPower k)).getD f
      else if f.magnitude = 0 then f
      else divideByPower steps ((f.div? (roundedPower 308)).getD f) (k - 308)

/-- The number with a significand and a decimal exponent, if it is finite. -/
def scaled? (significand : Nat) (exponent : Int) : Option Binary64 :=
  let f := roundedSignificand significand
  if 0 ≤ exponent then
    if exponent ≤ 308 then f.mul? (roundedPower exponent.toNat)
    else if f.magnitude = 0 then some f
    else none
  -- three steps of 308 take the largest significand to zero
  else some (divideByPower 4 f (-exponent).toNat)

/-- The exponents that are written with more than this are not taken into account. -/
def exponentLimit : Nat := 2147483648

/-- The range of the exponents that a sum with a written exponent is kept in. -/
def clampExponent (e : Int) : Int :=
  max (-2147483648) (min e 2147483647)

/-- The value of a number with the given sign, if it is in range. -/
def Scanned.value? (negative : Bool) (s : Scanned) : Option Number :=
  match s.overflow with
  | some true => none
  | some false => some (.float (Binary64.zero negative))
  | none =>
      if s.exact then
        if negative then
          if h : 0 < s.significand ∧ s.significand ≤ 9223372036854775808 then
            some (.int (-(s.significand : Int)) (by omega))
          else
            some (.float ⟨true, (roundedSignificand s.significand).magnitude,
              (roundedSignificand s.significand).finite⟩)
        else
          if h : s.significand < 18446744073709551616 then some (.int s.significand (by omega)) else none
      else
        (scaled? s.significand s.exponent).map fun f =>
          .float ⟨negative, f.magnitude, f.finite⟩

/-- Why no number was read: the fault when it is read, and the fault when it is skipped. -/
structure NumberFault where
  read : Fault
  skip : Fault

/-- A fault at a place where a digit is missing; the end of the text is told apart on reading. -/
def missingDigit : List Char → NumberFault
  | [] => ⟨.endInValue, .invalidNumber⟩
  | _ :: _ => ⟨.invalidNumber, .invalidNumber⟩

/-- Read the exponent after its letter and join it to the digits before. -/
def scanExponent (significand : Nat) (exponent : Int) (cs : List Char) :
    Except NumberFault (Scanned × List Char) :=
  let (sign, rest) :=
    match cs with
    | '+' :: r => (false, r)
    | '-' :: r => (true, r)
    | r => (false, r)
  let digits := rest.takeWhile Char.isDigit
  let after := rest.dropWhile Char.isDigit
  if digits.isEmpty then .error (missingDigit rest)
  else
    let e := Decimal.ofDigits digits
    if exponentLimit ≤ e then
      .ok (⟨significand, 0, false, some (significand != 0 && !sign)⟩, after)
    else
      let total := clampExponent (if sign then exponent - e else exponent + e)
      .ok (⟨significand, total, false, none⟩, after)

/-- Read the exponent, if there is one. -/
def scanRest (significand : Nat) (exponent : Int) (exact : Bool) (cs : List Char) :
    Except NumberFault (Scanned × List Char) :=
  match cs with
  | 'e' :: r => scanExponent significand exponent r
  | 'E' :: r => scanExponent significand exponent r
  | r => .ok (⟨significand, exponent, exact, none⟩, r)

/-- Read the digits of a number after its sign. -/
def scanNumber (cs : List Char) : Except NumberFault (Scanned × List Char) :=
  let whole := cs.takeWhile Char.isDigit
  let rest := cs.dropWhile Char.isDigit
  match whole with
  | [] => .error (missingDigit cs)
  | '0' :: _ :: _ => .error ⟨.invalidNumber, .invalidNumber⟩
  | _ =>
      let (significand, left) := collect 0 whole
      match rest with
      | '.' :: r =>
          let decimals := r.takeWhile Char.isDigit
          let after := r.dropWhile Char.isDigit
          if decimals.isEmpty then .error (missingDigit r)
          else
            let (significand, uncollected) := collect significand decimals
            let exponent := (left.length : Int) - (decimals.length - uncollected.length : Nat)
            scanRest significand exponent false after
      | r => scanRest significand left.length left.isEmpty r

end Json
end AnalyticsQuery
