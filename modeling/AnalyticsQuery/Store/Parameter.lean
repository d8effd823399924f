import AnalyticsQuery.Query.FilterValue

/-!
# Bound values as the store reads them

The store reads a bound value in an escaped text form.  A text and the text of
a list escape backslashes, tabs and line ends; in a list, each member is a
literal in single quotes, which escapes backslashes and quotes first.
-/

namespace AnalyticsQuery
namespace Store

/-- A character in the escaped text form. -/
def escapedChar (c : Char) : List Char :=
  if c = '\\' then ['\\', '\\']
  else if c = '\t' then ['\\', 't']
  else if c = '\n' then ['\\', 'n']
  else if c = '\r' then ['\\', 'r']
  else [c]

/-- A character inside single quotes. -/
def literalChar (c : Char) : List Char :=
  if c = '\\' then ['\\', '\\']
  else if c = '\'' then ['\\', '\'']
  else [c]

/-- A text in single quotes. -/
def literal (s : String) : List Char :=
  '\'' :: s.toList.flatMap literalChar ++ ['\'']

/-- A list of texts in brackets, before it is escaped. -/
def listChars (l : List String) : List Char :=
  '[' :: List.intercalate [','] (l.map literal) ++ [']']

/-- The characters of a bound value. -/
def encodeChars : Binding → List Char
  | .text s => s.toList.flatMap escapedChar
  | .number n => n.chars
  | .texts l => (listChars l).flatMap escapedChar

/-- A bound value as the store reads it. -/
def encode (b : Binding) : String :=
  String.ofList (encodeChars b)

end Store
end AnalyticsQuery
