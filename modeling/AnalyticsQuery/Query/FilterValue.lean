import AnalyticsQuery.Decimal.Reader
import AnalyticsQuery.Json.Decode
import AnalyticsQuery.Text.Blank

/-!
# Filter values

A filter compares a column with a number, a text, or a list of those.  A text
that spells a number counts as that number where a number is asked for.
-/

namespace AnalyticsQuery

/-- A value that a query binds to one of its placeholders. -/
inductive Binding
  | text (value : String)
  | number (value : Number)
  | texts (values : List String)
deriving DecidableEq

/-- A single filter value. -/
inductive Scalar
  | number (value : Number)
  | text (value : String)
deriving DecidableEq

namespace Scalar

/-- The text of a value. -/
def toText : Scalar → String
  | number n => n.text
  | text s => s

/-- The characters of a text without the blanks at its ends. -/
def trimmedChars (s : String) : List Char :=
  Text.stripWhere Text.isBlankChar s.toList

/-- The number that a value is or spells, if it is finite. -/
def toBinary64? : Scalar → Option Binary64
  | number n => n.toBinary64?
  | text s => Decimal.readBinary64? (trimmedChars s)

/-- The number that a text spells: an integer of the 64-bit range if it can be one. -/
def spelledNumber? (s : String) : Option Number :=
  match Decimal.readInt64? (trimmedChars s) with
  | some n => Number.ofInt? n
  | none => (Decimal.readBinary64? (trimmedChars s)).map Number.float

/-- The value bound where a number is compared; a text that spells none stays as it is. -/
def numberBinding : Scalar → Binding
  | number n => .number n
  | text s =>
      match spelledNumber? s with
      | some n => .number n
      | none => .text s

/-- The single filter value that a JSON value stands for. -/
def ofJson? : Json → Option Scalar
  | .num n => some (number n)
  | .str s => some (text s)
  | _ => none

/-- A single filter value as a JSON value. -/
def json : Scalar → Json
  | number n => .num n
  | text s => .str s

end Scalar

/-- A filter value: a single value or a list of them. -/
inductive FilterValue
  | list (items : List Scalar)
  | scalar (value : Scalar)
deriving DecidableEq

namespace FilterValue

/-- Whether a value is a list. -/
def isList : FilterValue → Bool
  | list _ => true
  | scalar _ => false

/-- The single values of a filter value. -/
def items : FilterValue → List Scalar
  | list items => items
  | scalar value => [value]

/-- The texts of the single values of a filter value. -/
def texts (v : FilterValue) : List String :=
  v.items.map Scalar.toText

/-- The text of a value; those of a list are joined by commas. -/
def toText (v : FilterValue) : String :=
  String.intercalate "," v.texts

/-- The filter value that a JSON value stands for. -/
def ofJson? : Json → Option FilterValue
  | .arr items => (items.mapM Scalar.ofJson?).map list
  | v => (Scalar.ofJson? v).map scalar

/-- Filter values in JSON. -/
def decoder : Json.Decoder FilterValue :=
  Json.Decoder.untagged "FilterValue" ofJson?

/-- A filter value as a JSON value. -/
def json : FilterValue → Json
  | list items => .arr (items.map Scalar.json)
  | scalar value => value.json

end FilterValue
end AnalyticsQuery
