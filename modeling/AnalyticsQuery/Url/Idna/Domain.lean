import AnalyticsQuery.Text.Split
import AnalyticsQuery.Url.Idna.Label
import AnalyticsQuery.Url.Idna.MappingTable
import AnalyticsQuery.Url.Punycode

/-!
# Domain names in ASCII

A domain name is brought into one form: its characters are mapped, mostly to
small letters, the result is composed, and every label outside ASCII is written
in Punycode.  A label that is given in Punycode has to be the form of a label
that needs it.
-/

namespace AnalyticsQuery
namespace Url
namespace Idna

/-- What becomes of a character. -/
inductive Rule
  | valid
  | ignored
  | disallowed
  | mapped (points : List Nat)
deriving DecidableEq

/-- The rule of a row of the table. -/
def Rule.ofRow (row : Text.TableRow) : Rule :=
  if row.kind = 'V' then valid
  else if row.kind = 'I' then ignored
  else if row.kind = 'M' then mapped row.values
  else disallowed

/-- The rules from their first code points on, the first one counted from `last`. -/
def rulesFrom (last : Nat) : List Text.TableRow → List (Nat × Rule)
  | [] => []
  | row :: rest => (last + row.number, Rule.ofRow row) :: rulesFrom (last + row.number) rest

/-- The rules of the characters above the ASCII range. -/
def rules : List (Nat × Rule) :=
  rulesFrom 0 (Text.tableRows mappingLines)

/-- The last rule that begins at or before a code point. -/
def findRule (n : Nat) : Rule → List (Nat × Rule) → Rule
  | found, [] => found
  | found, (first, rule) :: rest => if first ≤ n then findRule n rule rest else found

/-- The rule of a character. -/
def ruleOf (c : Char) : Rule :=
  if c.toNat < 128 then
    if c.isUpper then .mapped [c.toLower.toNat] else .valid
  else findRule c.toNat .disallowed rules

/-- The mapped form of a text, if it holds no disallowed character. -/
def mapped? : List Char → Option (List Nat)
  | [] => some []
  | c :: rest =>
      match ruleOf c, mapped? rest with
      | .disallowed, _ => none
      | _, none => none
      | .valid, some l => some (c.toNat :: l)
      | .ignored, some l => some l
      | .mapped points, some l => some (points ++ l)

/-- Whether a text holds ASCII characters only. -/
def isAscii (cs : List Char) : Bool :=
  cs.all fun c => c.toNat < 128

/-- The composed form of a text. -/
def composed (cs : List Char) : List Char :=
  if isAscii cs then cs else (Text.composed (cs.map Char.toNat)).map Char.ofNat

/-- The ASCII characters that no domain name may hold. -/
def isDenied (c : Char) : Bool :=
  c.toNat ≤ 0x20 || c.toNat = 0x7F ||
    c ∈ ['#', '%', '/', ':', '<', '>', '?', '@', '[', '\\', ']', '^', '|']

/-- The text of a label that is given in Punycode. -/
def decodedLabel? (code : List Char) : Option (List Char) :=
  match Punycode.decode? code with
  | none => none
  | some label =>
      if isAscii label || (composed label != label) || (label.any fun c => ruleOf c ≠ .valid) then
        none
      else some label

/-- A label in both of its forms. -/
structure Label where
  text : List Char
  ascii : List Char

/-- Both forms of a mapped label. -/
def Label.of? (cs : List Char) : Option Label :=
  match cs with
  | 'x' :: 'n' :: '-' :: '-' :: code => (decodedLabel? code).map fun text => ⟨text, cs⟩
  | _ =>
      if isAscii cs then some ⟨cs, cs⟩
      else some ⟨cs, 'x' :: 'n' :: '-' :: '-' :: Punycode.encode cs⟩

/-- Whether the characters of a label stand where they may. -/
def Label.fits (l : Label) : Bool :=
  isAscii l.text || (!beginsWithMark l.text && joinersFit [] l.text)

/-- The ASCII form of a domain name. -/
def toAscii? (domain : List Char) : Option (List Char) := do
  let points ← mapped? domain
  let name := composed (points.map Char.ofNat)
  let labels ← (Text.splitOn '.' name).mapM Label.of?
  let denied := labels.any fun l => l.text.any isDenied
  let directed := !(labels.any fun l => isRightToLeft l.text) ||
    labels.all fun l => keepsDirection l.text
  if !denied && labels.all Label.fits && directed then
    some (List.intercalate ['.'] (labels.map Label.ascii))
  else none

end Idna
end Url
end AnalyticsQuery
