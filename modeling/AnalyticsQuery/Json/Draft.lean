import AnalyticsQuery.Json.Number

/-!
# A JSON text as far as it can be read

A text that is not JSON may still answer a question about its beginning: a
decoder that expects a list finds out that an object stands there before it
meets the fault inside.  So a text is read into a draft, which keeps all that
stands before the fault and says where the fault is.

A part whose value nobody asks for is skipped, and skipping is more lenient
than reading: a number out of range and a lone surrogate pass.  A draft holds
the outcome of both.
-/

namespace AnalyticsQuery
namespace Json

/-- How the reading of a part ends. -/
inductive Scan (α : Type)
  /-- The part is read, and `rest` follows it. -/
  | ok (value : α) (rest : List Char)
  /-- The part cannot be read, but it can be skipped. -/
  | soft (fault : Fault) (rest : List Char)
  /-- The part can be neither read nor skipped. -/
  | hard (read skip : Fault)

/-- How a list ends in a text. -/
inductive ListEnd
  | closed
  | endOfText
  | endAfterComma
  | trailingComma
  | noComma
deriving DecidableEq, Repr

/-- The fault that a reader of the next element meets. -/
def ListEnd.readFault? : ListEnd → Option Fault
  | closed => none
  | endOfText => some .endInList
  | endAfterComma => some .endInValue
  | trailingComma => some .trailingComma
  | noComma => some .expectedListEnd

/-- The fault that is met when the list is skipped. -/
def ListEnd.skipFault? : ListEnd → Option Fault
  | closed => none
  | endOfText => some .endInList
  | endAfterComma => some .endInValue
  | trailingComma => some .expectedValue
  | noComma => some .expectedListEnd

/-- The fault that is met when the list has to be over. -/
def ListEnd.surplusFault? : ListEnd → Option Fault
  | closed => none
  | endOfText => some .endInList
  | endAfterComma => some .trailingCharacters
  | trailingComma => some .trailingComma
  | noComma => some .trailingCharacters

/-- A key of an object in a text. -/
inductive Key
  | text (name : String)
  | broken (fault : Fault)
deriving DecidableEq, Repr

/-- How an object ends in a text. -/
inductive RecordEnd
  | closed
  | endOfText
  | endAfterComma
  | trailingComma
  | noComma
  | notAKey
  | brokenKey (read skip : Fault)
  /-- A key stands there, and `fault` is met where its colon should be. -/
  | noColon (key : Key) (fault : Fault)
deriving DecidableEq, Repr

/-- The fault that a reader of the next key and its colon meets. -/
def RecordEnd.readFault? : RecordEnd → Option Fault
  | closed => none
  | endOfText => some .endInObject
  | endAfterComma => some .endInValue
  | trailingComma => some .trailingComma
  | noComma => some .expectedObjectEnd
  | notAKey => some .keyNotString
  | brokenKey read _ => some read
  | noColon (.broken fault) _ => some fault
  | noColon (.text _) fault => some fault

/-- The fault that is met when the object is skipped. -/
def RecordEnd.skipFault? : RecordEnd → Option Fault
  | closed => none
  | endOfText => some .endInObject
  | endAfterComma => some .endInObject
  | trailingComma => some .keyNotString
  | noComma => some .expectedObjectEnd
  | notAKey => some .keyNotString
  | brokenKey _ skip => some skip
  | noColon _ fault => some fault

/-- A JSON text as far as it can be read. -/
inductive Draft
  | null
  | bool (value : Bool)
  | num (value : Number)
  | str (value : String)
  /-- A part that cannot be read; `skip` is the fault on skipping it, if there is one. -/
  | broken (read : Fault) (skip : Option Fault)
  | list (items : List Draft) (ending : ListEnd)
  | record (members : List (Key × Draft)) (ending : RecordEnd)

instance : Inhabited Draft := ⟨.null⟩

/-- Blanks between the parts of a text. -/
def isSpace (c : Char) : Bool :=
  c = ' ' || c = '\n' || c = '\t' || c = '\r'

/-- A text without the blanks at its beginning. -/
def skipSpace (cs : List Char) : List Char :=
  cs.dropWhile isSpace

/-- The value of a hexadecimal digit. -/
def hexValue? (c : Char) : Option Nat :=
  let n := c.toNat
  if 48 ≤ n ∧ n ≤ 57 then some (n - 48)
  else if 65 ≤ n ∧ n ≤ 70 then some (n - 55)
  else if 97 ≤ n ∧ n ≤ 102 then some (n - 87)
  else none

/-- The value of four hexadecimal digits. -/
def hexValues? (a b c d : Char) : Option Nat :=
  match hexValue? a, hexValue? b, hexValue? c, hexValue? d with
  | some p, some q, some r, some s => some (4096 * p + 256 * q + 16 * r + s)
  | _, _, _, _ => none

/-- The character that a one-letter escape stands for. -/
def unescaped? : Char → Option Char
  | '"' => some '"'
  | '\\' => some '\\'
  | '/' => some '/'
  | 'b' => some '\x08'
  | 'f' => some '\x0c'
  | 'n' => some '\n'
  | 'r' => some '\r'
  | 't' => some '\t'
  | _ => none

/-- What has been read of a quoted text. -/
structure Quote where
  /-- The characters in reverse order. -/
  chars : List Char
  /-- A leading surrogate that waits for its trailing one. -/
  leading : Option Nat
  /-- The first fault that does not hinder skipping. -/
  fault : Option Fault

namespace Quote

/-- Note a fault unless there is one already. -/
def note (q : Quote) (fault : Fault) : Quote :=
  { q with fault := q.fault <|> some fault, leading := none }

/-- A waiting surrogate is alone when something else than an escape follows. -/
def settle (q : Quote) : Quote :=
  if q.leading.isSome then q.note .unfinishedSurrogate else q

/-- Append a character. -/
def push (q : Quote) (c : Char) : Quote :=
  let q := q.settle
  { q with chars := c :: q.chars }

/-- Append the UTF-16 unit of a hexadecimal escape. -/
def pushUnit (q : Quote) (n : Nat) : Quote :=
  match q.leading with
  | some m =>
      if 0xDC00 ≤ n ∧ n ≤ 0xDFFF then
        let c := Char.ofNat (0x10000 + (m - 0xD800) * 0x400 + (n - 0xDC00))
        { q with chars := c :: q.chars, leading := none }
      else q.note .loneSurrogate
  | none =>
      if 0xDC00 ≤ n ∧ n ≤ 0xDFFF then q.note .loneSurrogate
      else if 0xD800 ≤ n ∧ n ≤ 0xDBFF then { q with leading := some n }
      else { q with chars := Char.ofNat n :: q.chars }

/-- The end of the text, or a fault that hinders skipping as well. -/
def stop (q : Quote) (fault : Fault) : Scan String :=
  .hard (q.fault.getD fault) fault

/-- The closing quote. -/
def close (q : Quote) (rest : List Char) : Scan String :=
  let q := q.settle
  match q.fault with
  | some fault => .soft fault rest
  | none => .ok (String.ofList q.chars.reverse) rest

end Quote

/-- The number of bytes of a text in UTF-8. -/
def byteLength (cs : List Char) : Nat :=
  cs.foldl (fun n c => n + c.utf8Size) 0

/-- Read a quoted text after its opening quote. -/
def scanQuote (q : Quote) : List Char → Scan String
  | [] => q.stop .endInString
  | '"' :: rest => q.close rest
  | ['\\'] => q.stop .endInString
  | '\\' :: 'u' :: a :: b :: c :: d :: rest =>
      match hexValues? a b c d with
      | some n => scanQuote (q.pushUnit n) rest
      | none => q.stop .invalidEscape
  | '\\' :: 'u' :: rest =>
      q.stop (if byteLength rest < 4 then .endInString else .invalidEscape)
  | '\\' :: c :: rest =>
      match unescaped? c with
      | some e => scanQuote (q.push e) rest
      | none => q.settle.stop .invalidEscape
  | c :: rest =>
      if c.toNat < 32 then q.settle.stop .controlCharacter
      else scanQuote (q.push c) rest

/-- Read a quoted text after its opening quote. -/
def scanText (cs : List Char) : Scan String :=
  scanQuote ⟨[], none, none⟩ cs

/-- Read the rest of a word. -/
def scanWord (value : Draft) : List Char → List Char → Scan Draft
  | [], rest => .ok value rest
  | _ :: _, [] => .hard .endInValue .endInValue
  | w :: word, c :: rest =>
      if w = c then scanWord value word rest else .hard .expectedWord .expectedWord

/-- Read a number after its sign. -/
def scanNumberDraft (negative : Bool) (cs : List Char) : Scan Draft :=
  match scanNumber cs with
  | .error fault => .hard fault.read fault.skip
  | .ok (scanned, rest) =>
      match scanned.value? negative with
      | some n => .ok (.num n) rest
      | none => .soft .numberOutOfRange rest

/-- Read a part that is neither a list nor an object. -/
def scanLeaf : List Char → Scan Draft
  | [] => .hard .endInValue .endInValue
  | 'n' :: rest => scanWord .null ['u', 'l', 'l'] rest
  | 't' :: rest => scanWord (.bool true) ['r', 'u', 'e'] rest
  | 'f' :: rest => scanWord (.bool false) ['a', 'l', 's', 'e'] rest
  | '-' :: rest => scanNumberDraft true rest
  | '"' :: rest =>
      match scanText rest with
      | .ok s rest => .ok (.str s) rest
      | .soft fault rest => .soft fault rest
      | .hard read skip => .hard read skip
  | c :: rest =>
      if c.isDigit then scanNumberDraft false (c :: rest)
      else .hard .expectedValue .expectedValue

/-- The draft of a part, and what follows it unless the reading stops there. -/
def Scan.draft : Scan Draft → Draft × Option (List Char)
  | .ok value rest => (value, some rest)
  | .soft fault rest => (.broken fault none, some rest)
  | .hard read skip => (.broken read (some skip), none)

/-- The fault of a part where nothing can be read or skipped. -/
def dead (fault : Fault) : Draft :=
  .broken fault (some fault)

mutual

/--
Read a value.  Each list, object, element and member takes one unit of `fuel`,
so the length of the text is enough of it.
-/
def readValue : Nat → List Char → Draft × Option (List Char)
  | 0, _ => (dead .endInValue, none)
  | fuel + 1, cs =>
      match skipSpace cs with
      | '[' :: rest =>
          match skipSpace rest with
          | [] => (.list [] .endOfText, none)
          | ']' :: rest => (.list [] .closed, some rest)
          | rest =>
              let (items, ending, after) := readElements fuel rest
              (.list items ending, after)
      | '{' :: rest =>
          match skipSpace rest with
          | [] => (.record [] .endOfText, none)
          | '}' :: rest => (.record [] .closed, some rest)
          | rest =>
              let (members, ending, after) := readMembers fuel rest
              (.record members ending, after)
      | rest => (scanLeaf rest).draft

/-- Read the elements of a list from a place where one has to stand. -/
def readElements : Nat → List Char → List Draft × ListEnd × Option (List Char)
  | 0, _ => ([], .endOfText, none)
  | fuel + 1, cs =>
      match readValue fuel cs with
      | (item, none) => ([item], .endOfText, none)
      | (item, some rest) =>
          match skipSpace rest with
          | [] => ([item], .endOfText, none)
          | ']' :: rest => ([item], .closed, some rest)
          | ',' :: rest =>
              match skipSpace rest with
              | [] => ([item], .endAfterComma, none)
              | ']' :: _ => ([item], .trailingComma, none)
              | rest =>
                  let (items, ending, after) := readElements fuel rest
                  (item :: items, ending, after)
          | _ => ([item], .noComma, none)

/-- Read the members of an object from a place where one has to stand. -/
def readMembers : Nat → List Char → List (Key × Draft) × RecordEnd × Option (List Char)
  | 0, _ => ([], .endOfText, none)
  | fuel + 1, cs =>
      match cs with
      | '"' :: rest =>
          match scanText rest with
          | .hard read skip => ([], .brokenKey read skip, none)
          | .soft fault rest => readMember fuel (.broken fault) rest
          | .ok name rest => readMember fuel (.text name) rest
      | _ => ([], .notAKey, none)

/-- Read the value of a key and the members after it. -/
def readMember : Nat → Key → List Char → List (Key × Draft) × RecordEnd × Option (List Char)
  | 0, _, _ => ([], .endOfText, none)
  | fuel + 1, key, cs =>
      match skipSpace cs with
      | [] => ([], .noColon key .endInObject, none)
      | ':' :: rest =>
          match readValue fuel rest with
          | (value, none) => ([(key, value)], .endOfText, none)
          | (value, some rest) =>
              match skipSpace rest with
              | [] => ([(key, value)], .endOfText, none)
              | '}' :: rest => ([(key, value)], .closed, some rest)
              | ',' :: rest =>
                  match skipSpace rest with
                  | [] => ([(key, value)], .endAfterComma, none)
                  | '}' :: _ => ([(key, value)], .trailingComma, none)
                  | rest =>
                      let (members, ending, after) := readMembers fuel rest
                      ((key, value) :: members, ending, after)
              | _ => ([(key, value)], .noComma, none)
      | _ => ([], .noColon key .expectedColon, none)

end

/-- A whole text: its first value, and whether more than blanks follow that. -/
structure Document where
  draft : Draft
  trailing : Bool

/-- Read a text. -/
def Document.ofText (text : String) : Document :=
  let cs := text.toList
  match readValue (2 * cs.length + 2) cs with
  | (draft, none) => ⟨draft, false⟩
  | (draft, some rest) => ⟨draft, !(skipSpace rest).isEmpty⟩

mutual

/-- The first fault that is met when a draft is skipped. -/
def Draft.skipFault? : Draft → Option Fault
  | .broken _ skip => skip
  | .list items ending => skipFaultOfItems items <|> ending.skipFault?
  | .record members ending => skipFaultOfMembers members <|> ending.skipFault?
  | _ => none

/-- The first fault that is met when the elements of a list are skipped. -/
def skipFaultOfItems : List Draft → Option Fault
  | [] => none
  | item :: rest => item.skipFault? <|> skipFaultOfItems rest

/-- The first fault that is met when the members of an object are skipped. -/
def skipFaultOfMembers : List (Key × Draft) → Option Fault
  | [] => none
  | (_, value) :: rest => value.skipFault? <|> skipFaultOfMembers rest

end

mutual

/-- A value as a draft without faults. -/
def draft : Json → Draft
  | null => .null
  | bool b => .bool b
  | num n => .num n
  | str s => .str s
  | arr items => .list (draftItems items) .closed
  | obj members => .record (draftMembers members) .closed

/-- The items of an array as drafts. -/
def draftItems : List Json → List Draft
  | [] => []
  | item :: rest => draft item :: draftItems rest

/-- The members of an object as drafts. -/
def draftMembers : List (String × Json) → List (Key × Draft)
  | [] => []
  | (key, value) :: rest => (.text key, draft value) :: draftMembers rest

end

end Json
end AnalyticsQuery
