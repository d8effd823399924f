/-!
# Media types

A media type has a type, a subtype and perhaps parameters after semicolons.
The subtype may end in a suffix, which stands after its last plus sign.
-/

namespace AnalyticsQuery
namespace Service

/-- A media type without its parameters, in small letters. -/
structure MediaType where
  type : List Char
  subtype : List Char
  suffix : Option (List Char)
deriving DecidableEq, Repr

namespace MediaType

/-- Whether a character may stand in the parts of a media type. -/
def isToken (c : Char) : Bool :=
  c.isAlpha || c.isDigit || "!#$%&'*+-.^_|~".toList.contains c || c.toNat = 0x60

/-- Whether a character may stand in a quoted parameter. -/
def isQuotable (c : Char) : Bool :=
  31 < c.toNat && c.toNat ≠ 127

/-- A place among the parameters of a media type. -/
inductive Position
  | beforeName
  | inName
  | beforeValue
  | inValue
  /-- After an opening quote, where a second one counts as content. -/
  | afterQuote
  | inQuotes
  | afterQuotes
deriving DecidableEq, Repr

namespace Position

/-- The place after a character, if that may stand there. -/
def next? (p : Position) (c : Char) : Option Position :=
  match p with
  | beforeName => if c = ' ' then some beforeName else if isToken c then some inName else none
  | inName => if c = '=' then some beforeValue else if isToken c then some inName else none
  | beforeValue => if c = '"' then some afterQuote else if isToken c then some inValue else none
  | inValue => if c = ';' then some beforeName else if isToken c then some inValue else none
  | afterQuote => if isQuotable c then some inQuotes else none
  | inQuotes => if c = '"' then some afterQuotes else if isQuotable c then some inQuotes else none
  | afterQuotes => if c = ';' then some beforeName else if c = ' ' then some afterQuotes else none

/-- Whether parameters may end at a place. -/
def isEnd : Position → Bool
  | beforeName => true
  | inName => false
  | beforeValue => true
  | inValue => true
  | afterQuote => false
  | inQuotes => false
  | afterQuotes => true

/-- Whether a text is the rest of parameters from a place on. -/
def accepts (p : Position) : List Char → Bool
  | [] => p.isEnd
  | c :: rest =>
      match p.next? c with
      | some q => q.accepts rest
      | none => false

end Position

/-- The part of a subtype before its last plus sign, and what follows that. -/
def splitSuffix (cs : List Char) : List Char × Option (List Char) :=
  let suffix := (cs.reverse.takeWhile (· != '+')).reverse
  let before := cs.take (cs.length - suffix.length - 1)
  if before.isEmpty then (cs, none) else (before, some suffix)

/-- The media type of the two parts before the parameters. -/
def ofParts (type subtype : List Char) : MediaType :=
  let (subtype, suffix) := splitSuffix (subtype.map Char.toLower)
  ⟨type.map Char.toLower, subtype, suffix⟩

/-- The media type that a text names. -/
def ofChars? (cs : List Char) : Option MediaType :=
  let type := cs.takeWhile isToken
  match cs.dropWhile isToken with
  | '/' :: rest =>
      let subtype := rest.takeWhile isToken
      if type.isEmpty then none
      else
        match rest.dropWhile isToken with
        | [] => some (ofParts type subtype)
        | ';' :: params =>
            if !subtype.isEmpty && Position.beforeName.accepts params then
              some (ofParts type subtype)
            else none
        | _ => none
  | _ => none

/-- Whether a media type is that of JSON or built upon it. -/
def isJson (m : MediaType) : Bool :=
  m.type == "application".toList &&
    (m.subtype == "json".toList || m.suffix == some "json".toList)

end MediaType
end Service
end AnalyticsQuery
