import AnalyticsQuery.Text.Utf8

/-!
# Percent coding

A byte that must not stand in some part of a URL is written as a percent sign
and two hexadecimal digits.  Which bytes those are depends on the part.
-/

namespace AnalyticsQuery
namespace Url

/-- A capital hexadecimal digit. -/
def upperHexDigit (n : Nat) : Char :=
  (Nat.digitChar n).toUpper

/-- A byte in percent coding. -/
def percentByte (b : UInt8) : List Char :=
  ['%', upperHexDigit (b.toNat / 16), upperHexDigit (b.toNat % 16)]

/-- The value of a hexadecimal digit, given as a byte. -/
def hexByte? (b : UInt8) : Option Nat :=
  let n := b.toNat
  if 48 ≤ n ∧ n ≤ 57 then some (n - 48)
  else if 65 ≤ n ∧ n ≤ 70 then some (n - 55)
  else if 97 ≤ n ∧ n ≤ 102 then some (n - 87)
  else none

/-- Decode percent coding in bytes; a percent sign without two digits stands for itself. -/
def percentDecode : List UInt8 → List UInt8
  | a :: b :: c :: rest =>
      if a = 0x25 then
        match hexByte? b, hexByte? c with
        | some h, some l => (16 * h + l).toUInt8 :: percentDecode rest
        | _, _ => a :: percentDecode (b :: c :: rest)
      else a :: percentDecode (b :: c :: rest)
  | bytes => bytes

/-- Code the characters of a text that belong to a set of ASCII characters, and all others. -/
def percentEncode (coded : Char → Bool) (cs : List Char) : List Char :=
  cs.flatMap fun c =>
    if c.toNat < 128 && !coded c then [c] else (Text.pointBytes c.toNat).flatMap percentByte

/-- The control characters. -/
def isControl (c : Char) : Bool :=
  c.toNat < 32 || c.toNat = 127

/-- The characters that are coded in a fragment. -/
def codedInFragment (c : Char) : Bool :=
  isControl c || c ∈ [' ', '\x22', '<', '>', '\x60']

/-- The characters that are coded in a path. -/
def codedInPath (c : Char) : Bool :=
  codedInFragment c || c ∈ ['#', '?', '\x7b', '\x7d']

/-- The characters that are coded in a segment that is appended to a path. -/
def codedInSegment (special : Bool) (c : Char) : Bool :=
  codedInPath c || c ∈ ['/', '%'] || (special && c = '\\')

/-- The characters that are coded in the name and the password of a user. -/
def codedInUserinfo (c : Char) : Bool :=
  codedInPath c || c ∈ ['/', ':', ';', '=', '@', '[', '\\', ']', '^', '|']

/-- The characters that are coded in a query. -/
def codedInQuery (special : Bool) (c : Char) : Bool :=
  isControl c || c ∈ [' ', '\x22', '#', '<', '>'] || (special && c = '\x27')

end Url
end AnalyticsQuery
