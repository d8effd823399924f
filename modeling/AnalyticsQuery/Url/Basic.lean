import AnalyticsQuery.Url.Form
import AnalyticsQuery.Url.Host

/-!
# URLs

A URL has a scheme and, depending on that, a host with an optional user and
port, a path, a query and a fragment.  A path is either a list of segments or,
for schemes like those of mail addresses, a text that nothing can be resolved
against.  Reading a URL is as lenient as browsers are: blanks at the ends, tabs
and line ends are dropped, dots in a path are resolved, and what must not stand
in a part is written in percent coding.
-/

namespace AnalyticsQuery
namespace Url

/-- The path of a URL. -/
inductive Path
  | opaqueText (text : List Char)
  | segments (parts : List (List Char))
deriving DecidableEq

/-- The characters of a path. -/
def Path.chars : Path → List Char
  | opaqueText text => text
  | segments parts => parts.flatMap fun part => '/' :: part

/-- How the URLs of a scheme are read. -/
inductive SchemeType
  | file
  | special
  | other
deriving DecidableEq, Repr

/-- How the URLs of a scheme are read. -/
def schemeType (scheme : List Char) : SchemeType :=
  let name := String.ofList scheme
  if name == "file" then .file
  else if ["http", "https", "ws", "wss", "ftp"].contains name then .special
  else .other

/-- Whether a scheme is one of the well-known ones. -/
def SchemeType.isSpecial (t : SchemeType) : Bool :=
  t ≠ .other

/-- The port that a scheme stands for. -/
def defaultPort? (scheme : List Char) : Option Nat :=
  let name := String.ofList scheme
  if name == "http" || name == "ws" then some 80
  else if name == "https" || name == "wss" then some 443
  else if name == "ftp" then some 21
  else none

end Url

/-- A URL. -/
structure Url where
  scheme : List Char
  username : List Char
  password : List Char
  host : Option Url.Host
  port : Option Nat
  path : Url.Path
  query : Option (List Char)
  fragment : Option (List Char)

namespace Url

/-- A part of a URL that has been read, and what follows it. -/
abbrev Reading (α : Type) := Except UrlError (α × List Char)

/-- Whether a character ends the part of a URL that names the host. -/
def endsAuthority (special : Bool) (c : Char) : Bool :=
  c = '/' || c = '?' || c = '#' || (special && c = '\\')

/-- Whether a character is a slash of a path. -/
def isSlash (special : Bool) (c : Char) : Bool :=
  c = '/' || (special && c = '\\')

/-- The characters that are dropped from the ends of a URL. -/
def isDroppedAtEnds (c : Char) : Bool :=
  c.toNat ≤ 32

/-- The characters that are dropped everywhere in a URL. -/
def isDropped (c : Char) : Bool :=
  c = '\t' || c = '\n' || c = '\r'

/-- The text of a URL without the characters that are dropped from it. -/
def cleaned (cs : List Char) : List Char :=
  (((cs.dropWhile isDroppedAtEnds).reverse.dropWhile isDroppedAtEnds).reverse).filter
    fun c => !isDropped c

/-- Whether a character may stand in a scheme. -/
def isSchemeChar (c : Char) : Bool :=
  c.isAlpha || c.isDigit || c = '+' || c = '-' || c = '.'

/-- The scheme of a URL in small letters, and what follows its colon. -/
def scheme? (cs : List Char) : Option (List Char × List Char) :=
  match cs with
  | [] => none
  | c :: _ =>
      if c.isAlpha then
        match cs.dropWhile isSchemeChar with
        | ':' :: rest => some ((cs.takeWhile isSchemeChar).map Char.toLower, rest)
        | _ => none
      else none

/-- The user that a URL names, and what is left of the part that names the host. -/
structure Userinfo where
  /-- Whether an at sign stands before the host. -/
  present : Bool
  /-- Whether anything stands before that sign. -/
  written : Bool
  username : List Char
  password : List Char
  rest : List Char

/-- Split the part of a URL that names the host at its last at sign. -/
def splitUserinfo (authority : List Char) : Userinfo :=
  if authority.contains '@' then
    let rest := (authority.reverse.takeWhile (· != '@')).reverse
    let user := authority.take (authority.length - rest.length - 1)
    { present := true
      written := !user.isEmpty
      username := percentEncode codedInUserinfo (user.takeWhile (· != ':'))
      password := percentEncode codedInUserinfo ((user.dropWhile (· != ':')).drop 1)
      rest := rest }
  else ⟨false, false, [], [], authority⟩

/--
Whether a user is named without a host.  An at sign alone counts only when
something follows the part that names the host.
-/
def Userinfo.lacksHost (user : Userinfo) (followed : Bool) : Bool :=
  user.present && user.rest.isEmpty &&
    if user.written then !(user.username.isEmpty && user.password.isEmpty) else followed

/-- Split a host from its port at the first colon outside brackets. -/
def splitHost (inside : Bool) : List Char → List Char × Option (List Char)
  | [] => ([], none)
  | c :: rest =>
      if c = ':' ∧ inside = false then ([], some rest)
      else
        let next := if c = '[' then true else if c = ']' then false else inside
        let (host, port) := splitHost next rest
        (c :: host, port)

/-- The greatest port. -/
def maxPort : Nat := 65535

/-- The port that a text is; the port of the scheme and no port are the same. -/
def readPort (scheme : List Char) (cs : List Char) : Except UrlError (Option Nat) :=
  let digits := cs.takeWhile Char.isDigit
  let rest := cs.dropWhile Char.isDigit
  let port := Decimal.ofDigits digits
  if maxPort < port then .error .invalidPort
  else if rest.isEmpty || rest.head? = some '\\' then
    .ok (if digits.isEmpty || defaultPort? scheme = some port then none else some port)
  else .error .invalidPort

/-- The host and the port of a URL. -/
def readHost (type : SchemeType) (scheme cs : List Char) :
    Except UrlError (Option Host × Option Nat) := do
  let (hostText, portText) := splitHost false cs
  if hostText.isEmpty && (type.isSpecial || portText.isSome) then throw .emptyHost
  let host ← if type.isSpecial then Host.parse hostText else Host.parseOpaque hostText
  let port ←
    match portText with
    | none => pure none
    | some text => readPort scheme text
  return (if hostText.isEmpty then none else some host, port)

/-- Whether a segment is a dot, in either spelling. -/
def isSingleDot (segment : List Char) : Bool :=
  let s := String.ofList (segment.map Char.toLower)
  s == "." || s == "%2e"

/-- Whether a segment is two dots, in any spelling. -/
def isDoubleDot (segment : List Char) : Bool :=
  let s := String.ofList (segment.map Char.toLower)
  s == ".." || s == ".%2e" || s == "%2e." || s == "%2e%2e"

/-- Whether a text is the letter of a drive. -/
def isDriveLetter : List Char → Bool
  | [c, d] => c.isAlpha && (d = ':' || d = '|')
  | _ => false

/-- The segments without the last one; the letter of a drive is kept. -/
def shorten (type : SchemeType) (parts : List (List Char)) : List (List Char) :=
  match type, parts with
  | .file, [part] => if isDriveLetter part then [part] else []
  | _, parts => parts.dropLast

/-- A segment of a path as it is kept. -/
def keptSegment (type : SchemeType) (parts : List (List Char)) (segment : List Char) :
    List Char :=
  match type, parts, segment with
  | .file, [], [c, d] => if isDriveLetter [c, d] then [c, ':'] else [c, d]
  | _, _, segment => segment

/-- Resolve the dots in coded segments and append the others. -/
def resolveSegments (type : SchemeType) (parts : List (List Char)) :
    List (List Char) → List (List Char)
  | [] => parts
  | segment :: rest =>
      if isDoubleDot segment then
        let shorter := shorten type parts
        resolveSegments type (if rest.isEmpty then shorter ++ [[]] else shorter) rest
      else if isSingleDot segment then
        resolveSegments type (if rest.isEmpty then parts ++ [[]] else parts) rest
      else resolveSegments type (parts ++ [keptSegment type parts segment]) rest

/-- The parts of a text between its slashes. -/
def splitSlashes (special : Bool) (cs : List Char) : List (List Char) :=
  Text.splitOn '/' (if special then cs.map fun c => if c = '\\' then '/' else c else cs)

/-- The segments of a path after its first slash. -/
def readSegments (type : SchemeType) (cs : List Char) : List (List Char) :=
  let coded := (splitSlashes type.isSpecial cs).map (percentEncode codedInPath)
  let parts := resolveSegments type [] coded
  match type with
  | .file =>
      let kept := parts.dropWhile List.isEmpty
      if kept.isEmpty then [[]] else kept
  | _ => parts

/-- The path of a URL with a host; a well-known scheme has at least one segment. -/
def readPath (type : SchemeType) (cs : List Char) : Path :=
  match cs with
  | [] => .segments (if type.isSpecial then [[]] else [])
  | c :: rest =>
      if isSlash type.isSpecial c then .segments (readSegments type rest)
      else .segments (readSegments type cs)

/-- The path, query and fragment at the end of a URL, not yet read. -/
structure Tail where
  path : List Char
  query : Option (List Char)
  fragment : Option (List Char)

/-- Split the end of a URL. -/
def splitTail (cs : List Char) : Tail :=
  let (before, fragment) := Text.splitFirst '#' cs
  let (path, query) := Text.splitFirst '?' before
  ⟨path, query, fragment⟩

/-- The coded query of the end of a URL. -/
def Tail.codedQuery (type : SchemeType) (t : Tail) : Option (List Char) :=
  t.query.map (percentEncode (codedInQuery type.isSpecial))

/-- The coded fragment of the end of a URL. -/
def Tail.codedFragment (t : Tail) : Option (List Char) :=
  t.fragment.map (percentEncode codedInFragment)

/-- Read a URL after the two slashes of its scheme. -/
def readAuthority (type : SchemeType) (scheme cs : List Char) : Except UrlError Url := do
  let authority := cs.takeWhile fun c => !endsAuthority type.isSpecial c
  let rest := cs.dropWhile fun c => !endsAuthority type.isSpecial c
  let tail := splitTail rest
  let user := splitUserinfo authority
  if user.lacksHost (!rest.isEmpty) then throw .emptyHost
  let (host, port) ← readHost type scheme user.rest
  return {
    scheme := scheme
    username := user.username
    password := user.password
    host := host
    port := port
    path := readPath type tail.path
    query := tail.codedQuery type
    fragment := tail.codedFragment }

/-- Read a URL that has no host. -/
def readHostless (type : SchemeType) (scheme cs : List Char) : Url :=
  let tail := splitTail cs
  { scheme := scheme
    username := []
    password := []
    host := none
    port := none
    path :=
      match tail.path with
      | '/' :: rest => .segments (readSegments type rest)
      | path => .opaqueText (percentEncode isControl path)
    query := tail.codedQuery type
    fragment := tail.codedFragment }

/-- The path of a file, which begins with a slash whether or not it is written. -/
def readFilePath (cs : List Char) : List (List Char) :=
  match cs with
  | c :: rest => if isSlash true c then readSegments .file rest else readSegments .file cs
  | [] => [[]]

/-- Whether a path begins with the letter of a drive. -/
def beginsWithDrive (parts : List (List Char)) : Bool :=
  match parts with
  | part :: _ => isDriveLetter part
  | [] => false

/-- Read the URL of a file after its colon. -/
def readFile (scheme cs : List Char) : Except UrlError Url := do
  let build (host : Option Host) (cs : List Char) : Url :=
    let tail := splitTail cs
    let parts := readFilePath tail.path
    { scheme := scheme
      username := []
      password := []
      host := if beginsWithDrive parts then none else host
      port := none
      path := .segments parts
      query := tail.codedQuery .file
      fragment := tail.codedFragment }
  match cs with
  | c :: d :: rest =>
      if isSlash true c && isSlash true d then
        let hostText := rest.takeWhile fun e => !endsAuthority true e
        if hostText.isEmpty || isDriveLetter hostText then return build none rest
        let after := rest.dropWhile fun e => !endsAuthority true e
        let host ← Host.parse hostText
        if host = .domain "localhost".toList then return build none after
        return build (some host) after
      else return build none cs
  | cs => return build none cs

/-- Read a URL. -/
def parse (text : String) : Except UrlError Url :=
  match scheme? (cleaned text.toList) with
  | none => .error .relativeWithoutBase
  | some (scheme, rest) =>
      match schemeType scheme with
      | .file => readFile scheme rest
      | .special => readAuthority .special scheme (rest.dropWhile (isSlash true))
      | .other =>
          match rest with
          | '/' :: '/' :: rest => readAuthority .other scheme rest
          | rest => .ok (readHostless .other scheme rest)

/-- The characters of the host of a URL. -/
def hostChars? (url : Url) : Option (List Char) :=
  url.host.map Host.chars

/-- The target of a request for a URL: its path and query. -/
def target (url : Url) : List Char :=
  let path := url.path.chars
  (if path.isEmpty then ['/'] else path) ++
    match url.query with
    | none => []
    | some query => '?' :: query

/-- A URL with pairs appended to its query. -/
def appendPairs (url : Url) (pairs : List (String × String)) : Url :=
  { url with query := some (Form.append (url.query.getD []) pairs) }

/-- The segments of a path with one more, as a whole segment; a lone empty segment gives way. -/
def pushSegment (type : SchemeType) (parts : List (List Char)) (segment : List Char) :
    List (List Char) :=
  if segment = ['.'] ∨ segment = ['.', '.'] then parts
  else
    let coded := percentEncode (codedInSegment type.isSpecial)
      (segment.filter fun c => !isDropped c)
    let parts := if parts = [[]] then [] else parts
    resolveSegments type parts [coded]

/-- The segments of a path without an empty one at its end. -/
def popIfEmpty (parts : List (List Char)) : List (List Char) :=
  if parts.length ≤ 1 then parts
  else if parts.getLast? = some [] then parts.dropLast else parts

/-- A URL with segments appended to its path, if it can have any. -/
def extendPath? (url : Url) (segments : List (List Char)) : Option Url :=
  match url.path with
  | .opaqueText _ => none
  | .segments parts =>
      some { url with
        path := .segments
          (segments.foldl (pushSegment (schemeType url.scheme)) (popIfEmpty parts)) }

end Url
end AnalyticsQuery
