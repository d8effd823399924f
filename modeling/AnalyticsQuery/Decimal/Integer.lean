/-!
# The text of an integer

An integer is written in decimal digits without leading zeros, with a sign only
when it is negative.
-/

namespace AnalyticsQuery
namespace Decimal

/-- The digits of a natural number. -/
def natChars (n : Nat) : List Char :=
  Nat.toDigits 10 n

/-- The characters of an integer. -/
def intChars (n : Int) : List Char :=
  if n < 0 then '-' :: natChars n.natAbs else natChars n.natAbs

/-- The text of a natural number. -/
def natText (n : Nat) : String :=
  String.ofList (natChars n)

/-- The text of an integer. -/
def intText (n : Int) : String :=
  String.ofList (intChars n)

/-- The number that a list of decimal digits stands for. -/
def ofDigits (digits : List Char) : Nat :=
  digits.foldl (fun n c => 10 * n + (c.toNat - 48)) 0

end Decimal
end AnalyticsQuery
