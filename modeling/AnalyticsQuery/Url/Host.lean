import AnalyticsQuery.Decimal.Integer
import AnalyticsQuery.Url.Idna.Domain
import AnalyticsQuery.Url.Percent

/-!
# Hosts

The host of a URL is a domain name or an address.  A domain name that ends in a
number is read as an IPv4 address, whose parts may be decimal, octal or
hexadecimal; an IPv6 address stands in brackets.
-/

namespace AnalyticsQuery
namespace Url

/-- Why a text is not a URL. -/
inductive UrlError
  | emptyHost
  | internationalName
  | invalidPort
  | invalidIpv4
  | invalidIpv6
  | invalidDomainCharacter
  | relativeWithoutBase
deriving DecidableEq, Repr

/-- The wording of a refusal. -/
def UrlError.message : UrlError → String
  | emptyHost => "empty host"
  | internationalName => "invalid international domain name"
  | invalidPort => "invalid port number"
  | invalidIpv4 => "invalid IPv4 address"
  | invalidIpv6 => "invalid IPv6 address"
  | invalidDomainCharacter => "invalid domain character"
  | relativeWithoutBase => "relative URL without a base"

/-- A host. -/
inductive Host
  | domain (name : List Char)
  /-- An IPv4 address as a number. -/
  | ipv4 (address : Nat)
  /-- An IPv6 address as eight numbers. -/
  | ipv6 (pieces : List Nat)
deriving DecidableEq

namespace Host

/-- Whether a character is a hexadecimal digit. -/
def isHexDigit (c : Char) : Bool :=
  c.isDigit || (97 ≤ c.toNat && c.toNat ≤ 102) || (65 ≤ c.toNat && c.toNat ≤ 70)

/-- The number that hexadecimal digits stand for. -/
def ofHexDigits (cs : List Char) : Nat :=
  cs.foldl (fun n c => 16 * n + (if c.isDigit then c.toNat - 48 else c.toLower.toNat - 87)) 0

/-- The number that octal digits stand for. -/
def ofOctalDigits (cs : List Char) : Nat :=
  cs.foldl (fun n c => 8 * n + (c.toNat - 48)) 0

/-- The number that a part of an IPv4 address stands for. -/
def ipv4Number? : List Char → Option Nat
  | [] => none
  | '0' :: c :: rest =>
      if c = 'x' ∨ c = 'X' then
        if rest.all isHexDigit then some (ofHexDigits rest) else none
      else if (c :: rest).all fun d => 48 ≤ d.toNat && d.toNat ≤ 55 then
        some (ofOctalDigits (c :: rest))
      else none
  | cs => if cs.all Char.isDigit then some (Decimal.ofDigits cs) else none

/-- The parts of a domain name, without the empty one after a final point. -/
def nameParts (name : List Char) : List (List Char) :=
  let parts := Text.splitOn '.' name
  if parts.getLast? = some [] then parts.dropLast else parts

/-- Whether a domain name has to be an IPv4 address. -/
def endsInNumber (name : List Char) : Bool :=
  match (nameParts name).getLast? with
  | none => false
  | some [] => false
  | some part => part.all Char.isDigit || (ipv4Number? part).isSome

/-- The address of numbers, of which all but the last are single bytes. -/
def ipv4OfNumbers? (numbers : List Nat) : Option Nat :=
  match numbers.getLast? with
  | none => none
  | some last =>
      let bytes := numbers.dropLast
      if 4 ≤ bytes.length ∨ Nat.pow 256 (4 - bytes.length) ≤ last ∨ bytes.any (255 < ·) = true then none
      else some (bytes.foldl (fun n b => 256 * n + b) 0 * Nat.pow 256 (4 - bytes.length) + last)

/-- The IPv4 address that a domain name is. -/
def ipv4? (name : List Char) : Option Nat :=
  ((nameParts name).mapM ipv4Number?).bind ipv4OfNumbers?

/-- The number below 256 that decimal digits without needless zeros stand for. -/
def byteNumber? (cs : List Char) : Option Nat :=
  match cs with
  | [] => none
  | ['0'] => some 0
  | '0' :: _ => none
  | cs =>
      if cs.all Char.isDigit && Decimal.ofDigits cs ≤ 255 then some (Decimal.ofDigits cs) else none

/-- A part of the text of an IPv6 address. -/
inductive Ipv6Part
  | piece (value : Nat)
  /-- Zeros that are left out. -/
  | gap
deriving DecidableEq

/-- The last two pieces of an IPv6 address that is given as an IPv4 address. -/
def embeddedIpv4? (cs : List Char) : Option (List Ipv6Part) :=
  match (Text.splitOn '.' cs).mapM byteNumber? with
  | some [a, b, c, d] => some [.piece (256 * a + b), .piece (256 * c + d)]
  | _ => none

/-- Read the parts of an IPv6 address after `count` of them. -/
def ipv6Parts? (count : Nat) (gapSeen : Bool) (cs : List Char) : Option (List Ipv6Part) :=
  match cs with
  | [] => some []
  | c :: rest =>
      if count = 8 then none
      else if c = ':' then
        if gapSeen then none else (ipv6Parts? (count + 1) true rest).map (.gap :: ·)
      else
        let digits := ((c :: rest).take 4).takeWhile isHexDigit
        if digits.isEmpty then none
        else
          match h : (c :: rest).drop digits.length with
          | [] => some [.piece (ofHexDigits digits)]
          | '.' :: _ => if 6 < count then none else embeddedIpv4? (c :: rest)
          | ':' :: next =>
              if next.isEmpty then none
              else
                (ipv6Parts? (count + 1) gapSeen next).map (.piece (ofHexDigits digits) :: ·)
          | _ => none
termination_by cs.length
decreasing_by
  · simp
  · have hl := congrArg List.length h
    simp only [List.length_drop, List.length_cons] at hl ⊢
    omega

/-- The value of a part that is not left out. -/
def Ipv6Part.value? : Ipv6Part → Option Nat
  | piece n => some n
  | gap => none

/-- The eight numbers of the parts of an IPv6 address. -/
def ipv6OfParts? (parts : List Ipv6Part) : Option (List Nat) :=
  let before := parts.takeWhile (· ≠ .gap)
  let after := parts.drop before.length
  let values (l : List Ipv6Part) : List Nat := l.filterMap Ipv6Part.value?
  if after.isEmpty then if before.length = 8 then some (values before) else none
  else
    some (values before ++ List.replicate (8 - (parts.length - 1)) 0 ++ values after)

/-- The IPv6 address that a text without brackets is; it may begin with the zeros left out. -/
def ipv6? : List Char → Option (List Nat)
  | c :: d :: rest =>
      if c = ':' then
        if d = ':' then (ipv6Parts? 1 true rest).bind fun l => ipv6OfParts? (.gap :: l) else none
      else (ipv6Parts? 0 false (c :: d :: rest)).bind ipv6OfParts?
  | _ => none

/-- The IPv6 address in a text with brackets. -/
def bracketed? (cs : List Char) : Except UrlError Host :=
  if cs.getLast? = some ']' then
    match ipv6? (cs.drop 1).dropLast with
    | some pieces => .ok (.ipv6 pieces)
    | none => .error .invalidIpv6
  else .error .invalidIpv6

/-- The host that a text is in a URL of a well-known scheme. -/
def parse (cs : List Char) : Except UrlError Host :=
  if cs.head? = some '[' then bracketed? cs
  else
    match (Text.decode? (percentDecode (Text.utf8Bytes cs))).bind Idna.toAscii? with
    | none => .error .internationalName
    | some [] => .error .emptyHost
    | some name =>
        if endsInNumber name then
          match ipv4? name with
          | some address => .ok (.ipv4 address)
          | none => .error .invalidIpv4
        else .ok (.domain name)

/-- The characters that no host may hold. -/
def isForbidden (c : Char) : Bool :=
  c.toNat = 0 || c ∈ ['\t', '\n', '\r', ' ', '#', '/', ':', '<', '>', '?', '@', '[', '\\', ']',
    '^', '|']

/-- The host that a text is in a URL of any other scheme. -/
def parseOpaque (cs : List Char) : Except UrlError Host :=
  if cs.head? = some '[' then bracketed? cs
  else if cs.any isForbidden then .error .invalidDomainCharacter
  else .ok (.domain (percentEncode isControl cs))

/-- The length of the run of zeros that a list begins with. -/
def zeroRun (l : List Nat) : Nat :=
  (l.takeWhile (· = 0)).length

/-- The place and length of the first longest run of zeros, with `best` for the ones before. -/
def longestRun (place : Nat) (best : Nat × Nat) : List Nat → Nat × Nat
  | [] => best
  | n :: rest =>
      let run := zeroRun (n :: rest)
      longestRun (place + 1) (if best.2 < run then (place, run) else best) rest

/-- Numbers in hexadecimal digits, joined by colons. -/
def hexPieces (l : List Nat) : List Char :=
  List.intercalate [':'] (l.map (Nat.toDigits 16))

/-- The text of an IPv6 address without brackets. -/
def ipv6Chars (pieces : List Nat) : List Char :=
  let run := longestRun 0 (0, 0) pieces
  if run.2 < 2 then hexPieces pieces
  else hexPieces (pieces.take run.1) ++ ':' :: ':' :: hexPieces (pieces.drop (run.1 + run.2))

/-- The characters of a host. -/
def chars : Host → List Char
  | domain name => name
  | ipv4 n =>
      List.intercalate ['.']
        ([n / 0x1000000, n / 0x10000 % 256, n / 256 % 256, n % 256].map Decimal.natChars)
  | ipv6 pieces => '[' :: ipv6Chars pieces ++ [']']

end Host
end Url
end AnalyticsQuery
