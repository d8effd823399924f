/-!
# SQL identifiers

An identifier that is a plain word and no reserved word stands bare in a query;
every other one stands in backticks, where a backtick is written twice and a
backslash is escaped by another.
-/

namespace AnalyticsQuery
namespace Sql

/-- Whether a character is an ASCII letter or the underscore. -/
def isWordStart (c : Char) : Bool :=
  c.isAlpha || c = '_'

/-- Whether a character is an ASCII letter, a digit or the underscore. -/
def isWordChar (c : Char) : Bool :=
  c.isAlpha || c.isDigit || c = '_'

/-- Whether a list of characters is a plain word. -/
def isPlainWord : List Char → Bool
  | [] => false
  | c :: rest => isWordStart c && rest.all isWordChar

/-- Whether a name can stand bare in a query, reserved words aside. -/
def isPlain (name : String) : Bool :=
  isPlainWord name.toList

/-- The words of the query language that do not name anything. -/
def reservedWords : List String :=
  [ "all", "and", "any", "array", "as", "asc", "between", "by", "case", "cast", "desc",
    "distinct", "else", "end", "exists", "false", "format", "from", "global", "group",
    "having", "in", "inner", "interval", "is", "join", "like", "limit", "not", "null",
    "offset", "on", "or", "order", "prewhere", "select", "settings", "then", "true",
    "union", "using", "when", "where", "with" ]

/-- Whether a list of characters is a reserved word in any letter case. -/
def isReservedWord (cs : List Char) : Bool :=
  let lower := cs.map Char.toLower
  reservedWords.any fun w => w.toList == lower

/-- A character inside backticks. -/
def escapedChar (c : Char) : List Char :=
  if c = '\\' then ['\\', '\\']
  else if c = '\x60' then ['\x60', '\x60']
  else [c]

/-- The characters of an identifier in a query. -/
def quoteChars (cs : List Char) : List Char :=
  if isPlainWord cs && !isReservedWord cs then cs
  else '\x60' :: cs.flatMap escapedChar ++ ['\x60']

/-- An identifier as it stands in a query. -/
def quote (name : String) : String :=
  String.ofList (quoteChars name.toList)

end Sql
end AnalyticsQuery
