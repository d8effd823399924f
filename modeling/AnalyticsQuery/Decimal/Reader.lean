import AnalyticsQuery.Decimal.Binary64
import AnalyticsQuery.Decimal.Integer

/-!
# Reading numbers from text

A number is written in ASCII digits with an optional sign.  One that is not an
integer may have a point, with digits on at least one side of it, and a decimal
exponent; it is rounded once, to the nearest binary64 number.
-/

namespace AnalyticsQuery
namespace Decimal

/-- The sign of a number, and what follows it. -/
def splitSign : List Char → Bool × List Char
  | '-' :: rest => (true, rest)
  | '+' :: rest => (false, rest)
  | rest => (false, rest)

/-- The integer that a text stands for, if it lies in the signed 64-bit range. -/
def readInt64? (cs : List Char) : Option Int :=
  let (negative, digits) := splitSign cs
  if digits.isEmpty || !digits.all Char.isDigit then none
  else
    let n : Int := if negative then -(ofDigits digits : Int) else ofDigits digits
    if -9223372036854775808 ≤ n ∧ n < 9223372036854775808 then some n else none

/-- The decimal exponent that a text stands for; no text is the exponent zero. -/
def readExponent? : List Char → Option Int
  | [] => some 0
  | c :: rest =>
      if c = 'e' ∨ c = 'E' then
        let (negative, digits) := splitSign rest
        if digits.isEmpty || !digits.all Char.isDigit then none
        else some (if negative then -(ofDigits digits : Int) else ofDigits digits)
      else none

/-- The decimals behind a point, where there is one, and what follows them. -/
def splitDecimals : List Char → List Char × List Char
  | '.' :: rest => (rest.takeWhile Char.isDigit, rest.dropWhile Char.isDigit)
  | rest => ([], rest)

/-- The finite binary64 number nearest to the number that a text stands for. -/
def readBinary64? (cs : List Char) : Option Binary64 :=
  let (negative, rest) := splitSign cs
  let whole := rest.takeWhile Char.isDigit
  let (decimals, rest) := splitDecimals (rest.dropWhile Char.isDigit)
  if whole.isEmpty && decimals.isEmpty then none
  else
    match readExponent? rest with
    | none => none
    | some e =>
        Binary64.ofDecimal? negative (ofDigits (whole ++ decimals)) (e - decimals.length)

end Decimal
end AnalyticsQuery
