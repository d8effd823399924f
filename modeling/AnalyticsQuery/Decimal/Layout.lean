import AnalyticsQuery.Decimal.Shortest

/-!
# The text of a binary64 number

A number is written with the digits of the shortest decimal that reads back.
The exponent of its leading digit decides between positional notation, which
always has a digit after the point, and scientific notation, which always has
a sign in the exponent.
-/

namespace AnalyticsQuery
namespace Decimal

/-- The exponents of the leading digit that are written in positional notation. -/
structure Layout where
  least : Int
  greatest : Int

/-- Positional notation reaches from `0.00001` to just below `10 ^ 16`. -/
def standard : Layout where
  least := -5
  greatest := 15

/-- Digits in positional notation; `lead` is the exponent of the leading digit. -/
def positional (digits : List Char) (lead : Int) : List Char :=
  if lead < 0 then
    '0' :: '.' :: List.replicate (-lead - 1).toNat '0' ++ digits
  else
    let whole := lead.toNat + 1
    if digits.length ≤ whole then
      digits ++ List.replicate (whole - digits.length) '0' ++ ['.', '0']
    else
      digits.take whole ++ '.' :: digits.drop whole

/-- Digits in scientific notation; `lead` is the exponent of the leading digit. -/
def scientific (digits : List Char) (lead : Int) : List Char :=
  let mantissa :=
    match digits with
    | [] => []
    | [d] => [d]
    | d :: rest => d :: '.' :: rest
  mantissa ++ 'e' :: (if lead < 0 then '-' else '+') :: Nat.toDigits 10 lead.natAbs

/-- The digits of a number without the zeros at its end, and how many zeros those were. -/
def trimZeros (digits : List Char) : List Char × Nat :=
  let kept := (digits.reverse.dropWhile (· == '0')).reverse
  (kept, digits.length - kept.length)

/-- The characters of a magnitude. -/
def magnitudeChars (layout : Layout) (magnitude : Nat) : List Char :=
  if magnitude = 0 then ['0', '.', '0']
  else
    let d := shortest magnitude
    let all := Nat.toDigits 10 d.digits
    let lead := (all.length : Int) - 1 + d.exponent
    let digits := (trimZeros all).1
    if layout.least ≤ lead ∧ lead ≤ layout.greatest then positional digits lead
    else scientific digits lead

/-- The characters of a number. -/
def chars (x : Binary64) : List Char :=
  (if x.negative then ['-'] else []) ++ magnitudeChars standard x.magnitude

/-- The text of a number. -/
def text (x : Binary64) : String :=
  String.ofList (chars x)

end Decimal
end AnalyticsQuery
