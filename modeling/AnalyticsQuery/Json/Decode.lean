import AnalyticsQuery.Json.Draft
import AnalyticsQuery.Text.Quoted

/-!
# Decoding drafts

A decoder turns a draft into a value of some type or says what is the first
thing, in the order of the text, that hinders it, and where.

A draft stands either in a text or in a value that has been read before.  In a
text, lists and objects may be nested only up to a bound, and a list that is
longer than asked for is a fault of the text; in a value there is no bound,
and the same list has a wrong length.

A record is given either by an object, whose unknown keys are skipped, or by a
list of its fields in order of declaration.
-/

namespace AnalyticsQuery
namespace Json

/-- What stands in a place, as a message names it. -/
inductive Found
  | null
  | bool (value : Bool)
  | num (value : Number)
  | str (value : String)
  | list
  | record

/-- The wording of what stands in a place. -/
def Found.text : Found → String
  | null => "null"
  | bool b => "boolean `" ++ (if b then "true" else "false") ++ "`"
  | num (.int n _) => "integer `" ++ Decimal.intText n ++ "`"
  | num (.float x) => "floating point `" ++ Decimal.text x ++ "`"
  | str s => "string " ++ Text.quoted s
  | list => "sequence"
  | record => "map"

/-- Why a value does not belong to a type. -/
inductive Mismatch
  | wrongType (found : Found) (expected : String)
  | wrongValue (found : Found) (expected : String)
  | wrongLength (length : Nat) (expected : String)
  | missingField (name : String)
  | duplicateField (name : String)
  | unknownVariant (name : String) (known : List String)
  | noVariant (type : String)
  | rejected (message : String)

/-- The wording of a mismatch. -/
def Mismatch.message : Mismatch → String
  | wrongType found expected => "invalid type: " ++ found.text ++ ", expected " ++ expected
  | wrongValue found expected => "invalid value: " ++ found.text ++ ", expected " ++ expected
  | wrongLength length expected =>
      "invalid length " ++ Decimal.natText length ++ ", expected " ++ expected
  | missingField name => "missing field `" ++ name ++ "`"
  | duplicateField name => "duplicate field `" ++ name ++ "`"
  | unknownVariant name known =>
      "unknown variant `" ++ name ++ "`, expected one of " ++
        String.intercalate ", " (known.map fun k => "`" ++ k ++ "`")
  | noVariant type => "data did not match any variant of untagged enum " ++ type
  | rejected message => message

/-- What hinders a decoder. -/
inductive Cause
  | malformed (fault : Fault)
  | mismatch (reason : Mismatch)

/-- The wording of what hinders a decoder. -/
def Cause.message : Cause → String
  | malformed fault => fault.message
  | mismatch reason => reason.message

/-- A step on the way from a value to one of its parts. -/
inductive Step
  | index (i : Nat)
  | key (name : String)
  | unknown

/-- What hinders a decoder, and the way to the place. -/
structure DecodeError where
  cause : Cause
  path : List Step

namespace DecodeError

/-- The error of a text that is not JSON. -/
def malformed (fault : Fault) : DecodeError :=
  ⟨.malformed fault, []⟩

/-- The error of a value of a wrong type. -/
def mismatch (reason : Mismatch) : DecodeError :=
  ⟨.mismatch reason, []⟩

/-- The error as seen from one level above. -/
def under (step : Step) (e : DecodeError) : DecodeError :=
  { e with path := step :: e.path }

/-- The wording of an error without its place. -/
def message (e : DecodeError) : String :=
  e.cause.message

/-- The text of a way; keys are set apart by points. -/
def pathText (first : Bool) : List Step → String
  | [] => ""
  | .index i :: rest => "[" ++ Decimal.natText i ++ "]" ++ pathText false rest
  | .key name :: rest => (if first then "" else ".") ++ name ++ pathText false rest
  | .unknown :: rest => (if first then "" else ".") ++ "?" ++ pathText false rest

/-- Whether a way says anything. -/
def hasPlace : List Step → Bool
  | [] => false
  | .unknown :: rest => hasPlace rest
  | _ :: _ => true

/-- The wording of an error after its place, where that says anything. -/
def placedMessage (e : DecodeError) : String :=
  if hasPlace e.path then pathText true e.path ++ ": " ++ e.message else e.message

end DecodeError

/-- Where a draft stands. -/
inductive Place
  /-- In a text, with the number of lists and objects that may still be opened. -/
  | text (depth : Nat)
  /-- In a value that has been read before. -/
  | value

/-- A text may nest lists and objects up to this depth. -/
def maxDepth : Nat := 127

/-- The place inside a list or an object. -/
def Place.inside : Place → Except DecodeError Place
  | text 0 => .error (.malformed .tooDeep)
  | text (depth + 1) => .ok (text depth)
  | value => .ok value

/-- A decoder of a type. -/
abbrev Decoder (α : Type) := Place → Draft → Except DecodeError α

/-- The error of a draft that a decoder does not expect. -/
def unexpected (expected : String) : Draft → DecodeError
  | .null => .mismatch (.wrongType .null expected)
  | .bool b => .mismatch (.wrongType (.bool b) expected)
  | .num n => .mismatch (.wrongType (.num n) expected)
  | .str s => .mismatch (.wrongType (.str s) expected)
  | .broken fault _ => .malformed fault
  | .list _ _ => .mismatch (.wrongType .list expected)
  | .record _ _ => .mismatch (.wrongType .record expected)

/-- Pass an optional fault on. -/
def guardFault : Option Fault → Except DecodeError Unit
  | none => .ok ()
  | some fault => .error (.malformed fault)

/--
Pass the fault at the end of an object on.  A fault of a key belongs to an unknown part of
the object, and a fault after a key to the object itself.
-/
def guardEnd (ending : RecordEnd) : Except DecodeError Unit :=
  match ending.readFault? with
  | none => .ok ()
  | some fault =>
      match ending with
      | .noColon (.text _) _ => .error (.malformed fault)
      | _ => .error (DecodeError.under .unknown (.malformed fault))

namespace Decoder

variable {α β : Type}

/-- Say at which part an error occurs. -/
def within (step : Step) (r : Except DecodeError α) : Except DecodeError α :=
  r.mapError (DecodeError.under step)

/-- Texts. -/
def string : Decoder String
  | _, .str s => .ok s
  | _, d => .error (unexpected "a string" d)

/-- Truth values. -/
def boolean : Decoder Bool
  | _, .bool b => .ok b
  | _, d => .error (unexpected "a boolean" d)

/-- Natural numbers below a limit. -/
def natural (limit : Nat) (expected : String) : Decoder { n : Nat // n < limit }
  | _, .num (.int n fits) =>
      if h : 0 ≤ n ∧ n < limit then .ok ⟨n.toNat, by omega⟩
      else .error (.mismatch (.wrongValue (.num (.int n fits)) expected))
  | _, d => .error (unexpected expected d)

/-- Unsigned 32-bit integers. -/
def uint32 : Decoder UInt32 := fun p d =>
  (natural 4294967296 "u32" p d).map fun n => UInt32.ofNatLT n.1 n.2

/-- Unsigned 64-bit integers. -/
def uint64 : Decoder UInt64 := fun p d =>
  (natural 18446744073709551616 "u64" p d).map fun n => UInt64.ofNatLT n.1 n.2

/-- Null, or a value of the type. -/
def optional (decode : Decoder α) : Decoder (Option α)
  | _, .null => .ok none
  | p, d => (decode p d).map some

/-- Decode and convert; a refusal of the conversion is an error of the place. -/
def refine (decode : Decoder α) (convert : α → Except Mismatch β) : Decoder β := fun p d =>
  match decode p d with
  | .error e => .error e
  | .ok a =>
      match convert a with
      | .error reason => .error (.mismatch reason)
      | .ok b => .ok b

/-- The elements of a list from an index on. -/
def elements (decode : Decoder α) (p : Place) : Nat → List Draft → Except DecodeError (List α)
  | _, [] => .ok []
  | i, d :: rest => do
      let a ← within (.index i) (decode p d)
      let l ← elements decode p (i + 1) rest
      return a :: l

/-- Lists. -/
def list (decode : Decoder α) : Decoder (List α)
  | p, .list items ending => do
      let inside ← p.inside
      let l ← elements decode inside 0 items
      guardFault ending.readFault?
      return l
  | _, d => .error (unexpected "a sequence" d)

end Decoder

mutual

/-- Any value; of two members with one key the later counts. -/
def Draft.read (p : Place) : Draft → Except DecodeError Json
  | .null => .ok .null
  | .bool b => .ok (.bool b)
  | .num n => .ok (.num n)
  | .str s => .ok (.str s)
  | .broken fault _ => .error (.malformed fault)
  | .list items ending => do
      let inside ← p.inside
      let l ← readItems inside 0 items
      guardFault ending.readFault?
      return .arr l
  | .record members ending => do
      let inside ← p.inside
      let l ← readEntries inside members
      guardEnd ending
      return .ofDict (Dict.ofList l)

/-- Any values as the elements of a list from an index on. -/
def readItems (p : Place) : Nat → List Draft → Except DecodeError (List Json)
  | _, [] => .ok []
  | i, d :: rest => do
      let a ← Decoder.within (.index i) (d.read p)
      let l ← readItems p (i + 1) rest
      return a :: l

/-- Any values as the members of an object. -/
def readEntries (p : Place) : List (Key × Draft) → Except DecodeError (List (String × Json))
  | [] => .ok []
  | (.broken fault, _) :: _ => .error (DecodeError.under .unknown (.malformed fault))
  | (.text key, d) :: rest => do
      let a ← Decoder.within (.key key) (d.read p)
      let l ← readEntries p rest
      return (key, a) :: l

end

namespace Decoder

/-- Any value. -/
def json : Decoder Json := fun p d => d.read p

/-- Objects as rows. -/
def row : Decoder Row := fun p d =>
  match d with
  | .record _ _ =>
      match d.read p with
      | .error e => .error e
      | .ok (.obj members) => .ok (Dict.ofList members)
      | .ok _ => .ok Dict.empty
  | d => .error (unexpected "a map" d)

/-- One of the alternatives that `choose` accepts, whatever the reason for a refusal. -/
def untagged {α : Type} (type : String) (choose : Json → Option α) : Decoder α :=
  refine json fun v =>
    match choose v with
    | some a => .ok a
    | none => .error (.noVariant type)

/-- The value that a token of an enumeration stands for. -/
def variant {α : Type} (tokens : List (String × α)) (name : String) : Except DecodeError α :=
  match Dict.find name tokens with
  | some a => .ok a
  | none => .error (.mismatch (.unknownVariant name (tokens.map (·.1))))

/-- The only content of an object that names a token of an enumeration. -/
def unitContent : Decoder Unit
  | _, .null => .ok ()
  | _, d => .error (unexpected "unit" d)

/-- An object in a text that names a token of an enumeration. -/
def variantRecord {α : Type} (tokens : List (String × α)) (p : Place) :
    List (Key × Draft) → RecordEnd → Except DecodeError α
  | [], .closed => .error (.malformed .expectedValue)
  | [], .endOfText => .error (.malformed .endInValue)
  | [], .noColon (.text name) fault => do
      let _ ← variant tokens name
      .error (.malformed fault)
  | [], ending => .error (.malformed (ending.readFault?.getD .expectedValue))
  | (.broken fault, _) :: _, _ => .error (.malformed fault)
  | (.text name, d) :: rest, ending => do
      let a ← variant tokens name
      within (.key name) (unitContent p d)
      match rest, ending with
      | [], .closed => .ok a
      | [], .endOfText => .error (.malformed .endInObject)
      | _, _ => .error (.malformed .expectedValue)

/-- A token of an enumeration: as a text, or as an object with the token as its key. -/
def enumeration {α : Type} (tokens : List (String × α)) : Decoder α
  | _, .str name => variant tokens name
  | .value, .record [(.text name, d)] _ => do
      let a ← variant tokens name
      within (.key name) (unitContent .value d)
      return a
  | .value, .record _ _ =>
      .error (.mismatch (.wrongValue .record "map with a single key"))
  | .value, d => .error (unexpected "string or map" d)
  | .text depth, .record members ending => do
      let inside ← (Place.text depth).inside
      variantRecord tokens inside members ending
  | .text _, .broken fault _ =>
      .error (.malformed (if fault = .invalidNumber ∨ fault = .numberOutOfRange
        then .expectedValue else fault))
  | .text _, _ => .error (.malformed .expectedValue)

end Decoder

/-- A field of a record. -/
structure Field (α : Type) where
  name : String
  aliases : List String
  decode : Decoder α
  /-- The value of a field that an object leaves out. -/
  absent : Option α
  /-- The value of a field that a list is too short for. -/
  omitted : Option α

namespace Field

variable {α : Type}

/-- A field that has to be given. -/
def required (name : String) (aliases : List String) (decode : Decoder α) : Field α :=
  ⟨name, aliases, decode, none, none⟩

/-- A field with a default value. -/
def withDefault (name : String) (aliases : List String) (decode : Decoder α) (value : α) :
    Field α :=
  ⟨name, aliases, decode, some value, some value⟩

/-- A field that an object may leave out and a list may not. -/
def optionalKey (name : String) (decode : Decoder α) : Field (Option α) :=
  ⟨name, [], Decoder.optional decode, some none, none⟩

/-- Whether a key names a field. -/
def named (f : Field α) (key : String) : Bool :=
  key == f.name || f.aliases.contains key

end Field

/--
The fields of a record in order of declaration: `σ` holds what has been read of
them so far, and `τ` the whole record.
-/
inductive Fields : Type → Type → Type 1
  | nil : Fields Unit Unit
  | cons {α σ τ : Type} (field : Field α) (rest : Fields σ τ) : Fields (Option α × σ) (α × τ)

namespace Fields

/-- Nothing has been read. -/
def start : {σ τ : Type} → Fields σ τ → σ
  | _, _, nil => ()
  | _, _, cons _ rest => (none, rest.start)

/-- The number of fields. -/
def count : {σ τ : Type} → Fields σ τ → Nat
  | _, _, nil => 0
  | _, _, cons _ rest => rest.count + 1

/-- Read the value of a key into the field that it names, if there is one. -/
def put : {σ τ : Type} → Fields σ τ → String → Place → Draft → σ →
    Option (Except DecodeError σ)
  | _, _, nil, _, _, _, _ => none
  | _, _, cons field rest, key, p, d, (slot, others) =>
      if field.named key then
        match slot with
        | some _ => some (.error (.mismatch (.duplicateField field.name)))
        | none =>
            some ((Decoder.within (.key key) (field.decode p d)).map fun a => (some a, others))
      else
        (rest.put key p d others).map fun r => r.map fun s => (slot, s)

/-- Refuse a key whose field has been read. -/
def guardFresh : {σ τ : Type} → Fields σ τ → String → σ → Except DecodeError Unit
  | _, _, nil, _, _ => .ok ()
  | _, _, cons field rest, key, (slot, others) =>
      if field.named key then
        match slot with
        | some _ => .error (.mismatch (.duplicateField field.name))
        | none => .ok ()
      else rest.guardFresh key others

/-- The record of what has been read from an object. -/
def finish : {σ τ : Type} → Fields σ τ → σ → Except DecodeError τ
  | _, _, nil, _ => .ok ()
  | _, _, cons field rest, (slot, others) => do
      let a ←
        match slot <|> field.absent with
        | some a => .ok a
        | none => .error (.mismatch (.missingField field.name))
      let r ← rest.finish others
      return (a, r)

/-- Read the members of an object. -/
def readMembers {σ τ : Type} (fields : Fields σ τ) (p : Place) :
    σ → List (Key × Draft) → Except DecodeError σ
  | s, [] => .ok s
  | _, (.broken fault, _) :: _ => .error (DecodeError.under .unknown (.malformed fault))
  | s, (.text key, d) :: rest =>
      match fields.put key p d s with
      | some (.error e) => .error e
      | some (.ok s) => readMembers fields p s rest
      | none =>
          match d.skipFault? with
          | some fault => .error (DecodeError.under (.key key) (.malformed fault))
          | none => readMembers fields p s rest

/-- Read the fields from the elements of a list; `expected` describes the whole record. -/
def readElements : {σ τ : Type} → Fields σ τ → Place → String → Nat → List Draft → ListEnd →
    Except DecodeError (τ × List Draft)
  | _, _, nil, _, _, _, items, _ => .ok ((), items)
  | _, _, cons field rest, p, expected, i, [], ending => do
      guardFault ending.readFault?
      match field.omitted with
      | none => .error (.mismatch (.wrongLength i expected))
      | some a =>
          let (r, left) ← rest.readElements p expected (i + 1) [] ending
          return ((a, r), left)
  | _, _, cons field rest, p, expected, i, d :: items, ending => do
      let a ← Decoder.within (.index i) (field.decode p d)
      let (r, left) ← rest.readElements p expected (i + 1) items ending
      return ((a, r), left)

/-- The number of fields in words. -/
def countText {σ τ : Type} (fields : Fields σ τ) : String :=
  if fields.count = 1 then "1 element" else Decimal.natText fields.count ++ " elements"

end Fields

/-- A record with the given name and fields. -/
def Decoder.record {σ τ : Type} (name : String) (fields : Fields σ τ) : Decoder τ
  | p, .record members ending => do
      let inside ← p.inside
      let s ← fields.readMembers inside fields.start members
      match ending with
      | .noColon (.text key) _ => fields.guardFresh key s
      | _ => .ok ()
      guardEnd ending
      fields.finish s
  | p, .list items ending => do
      let inside ← p.inside
      let expected := "struct " ++ name ++ " with " ++ fields.countText
      let (r, left) ← fields.readElements inside expected 0 items ending
      match p, left with
      | .value, [] => .ok r
      | .value, _ =>
          .error (.mismatch (.wrongLength items.length "fewer elements in array"))
      | .text _, [] => do
          guardFault ending.surplusFault?
          return r
      | .text _, _ => .error (.malformed .trailingCharacters)
  | _, d => .error (unexpected ("struct " ++ name) d)

/-- Decode a value that has been read before. -/
def decode {α : Type} (d : Decoder α) (v : Json) : Except DecodeError α :=
  d .value v.draft

/-- Decode the beginning of a text. -/
def decodeBeginning {α : Type} (d : Decoder α) (text : String) : Except DecodeError α :=
  d (.text maxDepth) (Document.ofText text).draft

/-- Decode a whole text. -/
def decodeText {α : Type} (d : Decoder α) (text : String) : Except DecodeError α :=
  let document := Document.ofText text
  match d (.text maxDepth) document.draft with
  | .error e => .error e
  | .ok a => if document.trailing then .error (.malformed .trailingCharacters) else .ok a

/-- Read a whole text as a value. -/
def ofText (text : String) : Except DecodeError Json :=
  decodeText Decoder.json text

end Json
end AnalyticsQuery
