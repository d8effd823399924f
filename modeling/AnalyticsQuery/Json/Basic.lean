import AnalyticsQuery.Decimal.Integer
import AnalyticsQuery.Decimal.Layout
import AnalyticsQuery.Dict

/-!
# JSON values

A number is either an integer of the 64-bit range, signed or unsigned, or a
finite binary64 number; the two never meet, so an integer is never taken for a
float.  The members of an object that was read as a value stand in ascending
order of their keys.
-/

namespace AnalyticsQuery

/-- A JSON number. -/
inductive Number
  | int (value : Int) (fits : -9223372036854775808 ≤ value ∧ value < 18446744073709551616)
  | float (value : Binary64)
deriving DecidableEq

namespace Number

/-- The number of an integer, if it lies in the 64-bit range. -/
def ofInt? (n : Int) : Option Number :=
  if h : -9223372036854775808 ≤ n ∧ n < 18446744073709551616 then some (int n h) else none

/-- The number of an unsigned 32-bit integer. -/
def ofUInt32 (n : UInt32) : Number :=
  int n.toNat (by have h := n.toNat_lt; omega)

/-- The number of an unsigned 64-bit integer. -/
def ofUInt64 (n : UInt64) : Number :=
  int n.toNat (by have h := n.toNat_lt; omega)

/-- The characters of a number. -/
def chars : Number → List Char
  | int n _ => Decimal.intChars n
  | float x => Decimal.chars x

/-- The text of a number. -/
def text (n : Number) : String :=
  String.ofList n.chars

/-- The binary64 number nearest to a number. -/
def toBinary64? : Number → Option Binary64
  | int n _ => Binary64.ofInt? n
  | float x => some x

/-- The integer zero. -/
def zero : Number := int 0 (by decide)

instance : Inhabited Number := ⟨zero⟩

end Number

/-- A JSON value. -/
inductive Json
  | null
  | bool (value : Bool)
  | num (value : Number)
  | str (value : String)
  | arr (items : List Json)
  | obj (members : List (String × Json))
deriving Inhabited

namespace Json

/-- The object with the entries of a map. -/
def ofDict (d : Dict Json) : Json :=
  obj d.entries

/-- A text, or null when there is none. -/
def ofOption : Option String → Json
  | none => null
  | some s => str s

/-- The array of a list of texts. -/
def texts (l : List String) : Json :=
  arr (l.map str)

/-- The number of an unsigned 32-bit integer as a value. -/
def ofUInt32 (n : UInt32) : Json :=
  num (Number.ofUInt32 n)

/-- The number of an unsigned 64-bit integer as a value. -/
def ofUInt64 (n : UInt64) : Json :=
  num (Number.ofUInt64 n)

/-- The number of a natural number as a value; its text when it is too large for one. -/
def ofNat (n : Nat) : Json :=
  match Number.ofInt? n with
  | some k => num k
  | none => str (Decimal.natText n)

/-- The member of an object with a given key. -/
def get? (key : String) : Json → Option Json
  | obj members => Dict.find key members
  | _ => none

end Json

/-- A row of a result: a value for each output column. -/
abbrev Row := Dict Json

end AnalyticsQuery
