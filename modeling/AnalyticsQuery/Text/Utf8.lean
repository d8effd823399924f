/-!
# Texts as bytes

A text is written as bytes in UTF-8.  Reading bytes that are not UTF-8 is
lenient: the longest beginning of a character that cannot be continued counts
as one replacement character.
-/

namespace AnalyticsQuery
namespace Text

/-- The bytes of a code point. -/
def pointBytes (n : Nat) : List UInt8 :=
  if n < 0x80 then [n.toUInt8]
  else if n < 0x800 then [(0xC0 + n / 0x40).toUInt8, (0x80 + n % 0x40).toUInt8]
  else if n < 0x10000 then
    [(0xE0 + n / 0x1000).toUInt8, (0x80 + n / 0x40 % 0x40).toUInt8, (0x80 + n % 0x40).toUInt8]
  else
    [(0xF0 + n / 0x40000).toUInt8, (0x80 + n / 0x1000 % 0x40).toUInt8,
      (0x80 + n / 0x40 % 0x40).toUInt8, (0x80 + n % 0x40).toUInt8]

/-- The bytes of a text. -/
def utf8Bytes (cs : List Char) : List UInt8 :=
  cs.flatMap fun c => pointBytes c.toNat

/-- The character that takes the place of bytes that are no text. -/
def replacement : Char := '\ufffd'

/-- Whether a byte continues a character. -/
def isContinuation (b : UInt8) : Bool :=
  0x80 ≤ b && b ≤ 0xBF

/-- Whether two bytes begin a character of three or four bytes. -/
def startsLong (a b : UInt8) : Bool :=
  if a = 0xE0 then 0xA0 ≤ b && b ≤ 0xBF
  else if a = 0xED then 0x80 ≤ b && b ≤ 0x9F
  else if a = 0xF0 then 0x90 ≤ b && b ≤ 0xBF
  else if a = 0xF4 then 0x80 ≤ b && b ≤ 0x8F
  else ((0xE1 ≤ a && a ≤ 0xEF) || (0xF1 ≤ a && a ≤ 0xF3)) && isContinuation b

/-- The low bits of a byte that continues a character. -/
def low (b : UInt8) : Nat :=
  b.toNat % 0x40

/-- The first character of bytes, if it is one, and the number of bytes that it takes. -/
def firstChar (a : UInt8) (rest : List UInt8) : Option Char × Nat :=
  if a < 0x80 then (some (Char.ofNat a.toNat), 1)
  else if 0xC2 ≤ a && a ≤ 0xDF then
    match rest with
    | b :: _ =>
        if isContinuation b then (some (Char.ofNat ((a.toNat - 0xC0) * 0x40 + low b)), 2)
        else (none, 1)
    | [] => (none, 1)
  else
    match rest with
    | b :: rest =>
        if startsLong a b then
          match rest with
          | c :: rest =>
              if !isContinuation c then (none, 2)
              else if a < 0xF0 then
                (some (Char.ofNat ((a.toNat - 0xE0) * 0x1000 + low b * 0x40 + low c)), 3)
              else
                match rest with
                | d :: _ =>
                    if isContinuation d then
                      (some (Char.ofNat ((a.toNat - 0xF0) * 0x40000 + low b * 0x1000 +
                        low c * 0x40 + low d)), 4)
                    else (none, 3)
                | [] => (none, 3)
          | [] => (none, 2)
        else (none, 1)
    | [] => (none, 1)

/-- The characters of bytes; `none` stands for bytes that are no text. -/
def decodeUnits : List UInt8 → List (Option Char)
  | [] => []
  | a :: rest =>
      let (c, taken) := firstChar a rest
      c :: decodeUnits (rest.drop (taken - 1))
termination_by bytes => bytes.length
decreasing_by simp only [List.length_cons, List.length_drop]; omega

/-- The text of bytes, with replacement characters where they are no text. -/
def decodeLossy (bytes : List UInt8) : List Char :=
  (decodeUnits bytes).map fun c => c.getD replacement

/-- The text of bytes, if they are one. -/
def decode? (bytes : List UInt8) : Option (List Char) :=
  (decodeUnits bytes).mapM id

end Text
end AnalyticsQuery
