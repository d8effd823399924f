import AnalyticsQuery.Text.Split
import AnalyticsQuery.Url.Percent

/-!
# Pairs in a query string

A query string holds pairs of a name and a value, joined by ampersands.  A
blank is written as a plus sign and everything but letters, digits and four
signs in percent coding.
-/

namespace AnalyticsQuery
namespace Url
namespace Form

/-- Whether a byte stands for itself. -/
def isKept (b : UInt8) : Bool :=
  let n := b.toNat
  (48 ≤ n && n ≤ 57) || (65 ≤ n && n ≤ 90) || (97 ≤ n && n ≤ 122) ||
    n = 42 || n = 45 || n = 46 || n = 95

/-- A byte of a name or a value. -/
def encodeByte (b : UInt8) : List Char :=
  if isKept b then [Char.ofNat b.toNat] else if b = 0x20 then ['+'] else percentByte b

/-- A name or a value. -/
def encodePart (cs : List Char) : List Char :=
  (Text.utf8Bytes cs).flatMap encodeByte

/-- A pair. -/
def encodePair (pair : String × String) : List Char :=
  encodePart pair.1.toList ++ '=' :: encodePart pair.2.toList

/-- A query string with pairs appended to it. -/
def append (query : List Char) (pairs : List (String × String)) : List Char :=
  pairs.foldl
    (fun q pair => q ++ (if q.isEmpty then [] else ['&']) ++ encodePair pair) query

/-- A name or a value as it is read. -/
def decodePart (cs : List Char) : String :=
  let spaced := cs.map fun c => if c = '+' then ' ' else c
  String.ofList (Text.decodeLossy (percentDecode (Text.utf8Bytes spaced)))

/-- A pair as it is read; without an equals sign the value is empty. -/
def decodePair (cs : List Char) : String × String :=
  match Text.splitFirst '=' cs with
  | (name, some value) => (decodePart name, decodePart value)
  | (name, none) => (decodePart name, "")

/-- The pairs of a query string; nothing between two ampersands is no pair. -/
def decode (query : List Char) : List (String × String) :=
  ((Text.splitOn '&' query).filter fun part => !part.isEmpty).map decodePair

end Form
end Url
end AnalyticsQuery
