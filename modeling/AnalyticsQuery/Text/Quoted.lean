import AnalyticsQuery.Text.Printable

/-!
# Texts quoted for a message

A message shows a text in double quotes.  Quotes and backslashes are escaped
by a backslash, a few control characters by a letter, and every other
character that is unprintable or extends the one before it by its code point.
-/

namespace AnalyticsQuery
namespace Text

/-- A code point in braces. -/
def pointEscape (n : Nat) : List Char :=
  '\\' :: 'u' :: '\x7b' :: Nat.toDigits 16 n ++ ['\x7d']

/-- A character inside a quoted text. -/
def quotedChar (c : Char) : List Char :=
  if c = '"' then ['\\', '"']
  else if c = '\\' then ['\\', '\\']
  else if c.toNat = 0 then ['\\', '0']
  else if c = '\t' then ['\\', 't']
  else if c = '\n' then ['\\', 'n']
  else if c = '\r' then ['\\', 'r']
  else if 32 ≤ c.toNat ∧ c.toNat < 127 then [c]
  else if extending.contains c.toNat || unprintable.contains c.toNat then pointEscape c.toNat
  else [c]

/-- A text in quotes, as a message shows it. -/
def quoted (s : String) : String :=
  String.ofList ('"' :: s.toList.flatMap quotedChar ++ ['"'])

end Text
end AnalyticsQuery
