import AnalyticsQuery.Decimal.Integer
import AnalyticsQuery.Text.Blank

/-!
# Dates in texts

Dates belong to the proleptic Gregorian calendar, with years from -262143 to
262142.  The readers are tolerant: blanks may stand before a number, leading
zeros may be left out, and a year may have a sign, which then allows it more
than four digits.  Only the timestamp with an offset has fixed widths.
-/

namespace AnalyticsQuery
namespace Calendar

/-- Whether a year has a 29th of February. -/
def isLeap (year : Int) : Bool :=
  year % 4 = 0 && (year % 100 != 0 || year % 400 = 0)

/-- The number of days of a month; none for a number that is no month. -/
def daysInMonth (year : Int) : Nat → Nat
  | 1 => 31
  | 2 => if isLeap year then 29 else 28
  | 3 => 31
  | 4 => 30
  | 5 => 31
  | 6 => 30
  | 7 => 31
  | 8 => 31
  | 9 => 30
  | 10 => 31
  | 11 => 30
  | 12 => 31
  | _ => 0

/-- The first year of the calendar. -/
def firstYear : Int := -262143

/-- The last year of the calendar. -/
def lastYear : Int := 262142

/-- Whether three numbers are the year, month and day of a date. -/
def isDay (year : Int) (month day : Nat) : Bool :=
  firstYear ≤ year && year ≤ lastYear && 1 ≤ day && day ≤ daysInMonth year month

/-- A date. -/
structure Date where
  year : Int
  month : Nat
  day : Nat
  exists_day : isDay year month day = true

/-- The date of a year, month and day. -/
def Date.of? (year : Int) (month day : Nat) : Option Date :=
  if h : isDay year month day = true then some ⟨year, month, day, h⟩ else none

/-- The day before a date, if the calendar has it. -/
def Date.previous? (d : Date) : Option Date :=
  if 1 < d.day then Date.of? d.year d.month (d.day - 1)
  else if 1 < d.month then
    Date.of? d.year (d.month - 1) (daysInMonth d.year (d.month - 1))
  else Date.of? (d.year - 1) 12 31

/-- The date a number of days before a date, if the calendar has it. -/
def Date.before? (d : Date) : Nat → Option Date
  | 0 => some d
  | n + 1 => d.previous?.bind fun e => e.before? n

/-- Digits with zeros before them up to a width. -/
def padded (width n : Nat) : List Char :=
  let digits := Decimal.natChars n
  List.replicate (width - digits.length) '0' ++ digits

/-- The text of a date; a year of more than four digits or below zero has a sign. -/
def Date.text (d : Date) : String :=
  let sign := if d.year < 0 then ['-'] else if 9999 < d.year then ['+'] else []
  String.ofList (sign ++ padded 4 d.year.natAbs ++ '-' :: padded 2 d.month ++
    '-' :: padded 2 d.day)

/-- Read a number of at least one and at most `most` digits. -/
def number? (most : Nat) (cs : List Char) : Option (Nat × List Char) :=
  let digits := (cs.take most).takeWhile Char.isDigit
  if digits.isEmpty then none
  else some (Decimal.ofDigits digits, cs.drop digits.length)

/-- Read a number of exactly `width` digits. -/
def exactNumber? (width : Nat) (cs : List Char) : Option (Nat × List Char) :=
  let digits := cs.take width
  if digits.length = width ∧ digits.all Char.isDigit = true then
    some (Decimal.ofDigits digits, cs.drop width)
  else none

/-- Read a character. -/
def literal? (c : Char) : List Char → Option (List Char)
  | d :: rest => if d = c then some rest else none
  | [] => none

/-- A text without the blanks at its beginning. -/
def skipBlanks (cs : List Char) : List Char :=
  cs.dropWhile Text.isBlankChar

/-- Read a year after blanks. -/
def year? (cs : List Char) : Option (Int × List Char) :=
  match skipBlanks cs with
  | '-' :: rest => (number? rest.length rest).map fun (n, r) => (-(n : Int), r)
  | '+' :: rest => (number? rest.length rest).map fun (n, r) => ((n : Int), r)
  | rest => (number? 4 rest).map fun (n, r) => ((n : Int), r)

/-- Read a number of at most two digits after blanks. -/
def field? (cs : List Char) : Option (Nat × List Char) :=
  number? 2 (skipBlanks cs)

/-- Read a date. -/
def date? (cs : List Char) : Option (Date × List Char) := do
  let (year, cs) ← year? cs
  let cs ← literal? '-' cs
  let (month, cs) ← field? cs
  let cs ← literal? '-' cs
  let (day, cs) ← field? cs
  let date ← Date.of? year month day
  return (date, cs)

/-- Whether three numbers are a time of day; a minute may have a leap second. -/
def isTime (hour minute second : Nat) : Bool :=
  hour < 24 && minute < 60 && second ≤ 60

/-- Read a time of day. -/
def time? (cs : List Char) : Option (List Char) := do
  let (hour, cs) ← field? cs
  let cs ← literal? ':' cs
  let (minute, cs) ← field? cs
  let cs ← literal? ':' cs
  let (second, cs) ← field? cs
  if isTime hour minute second then some cs else none

/-- The date that a whole text is. -/
def Date.ofText? (s : String) : Option Date :=
  match date? s.toList with
  | some (d, []) => some d
  | _ => none

/-- Whether a whole text is a date. -/
def isDate (cs : List Char) : Bool :=
  match date? cs with
  | some (_, []) => true
  | _ => false

/-- Whether a whole text is a date, any blanks and a time of day. -/
def isSpacedDateTime (cs : List Char) : Bool :=
  match date? cs with
  | some (_, rest) => time? (skipBlanks rest) == some []
  | none => false

/-- Whether a whole text is a date, the letter T and a time of day. -/
def isJoinedDateTime (cs : List Char) : Bool :=
  match date? cs with
  | some (_, 'T' :: rest) => time? rest == some []
  | _ => false

/-- Read the decimals of a second, if there are any. -/
def decimals? : List Char → Option (List Char)
  | '.' :: rest =>
      if (rest.takeWhile Char.isDigit).isEmpty then none else some (rest.dropWhile Char.isDigit)
  | cs => some cs

/-- Whether a whole text is an offset from universal time, below a day. -/
def isOffset (cs : List Char) : Bool :=
  match cs with
  | ['Z'] => true
  | ['z'] => true
  | sign :: rest =>
      if sign = '+' ∨ sign = '-' ∨ sign = '\u2212' then
        match exactNumber? 2 rest with
        | some (hour, ':' :: rest) =>
            match exactNumber? 2 rest with
            | some (minute, []) => hour < 24 && minute < 60
            | _ => false
        | _ => false
      else false
  | [] => false

/-- Read a date and a time of day of fixed widths. -/
def fixedDateTime? (cs : List Char) : Option (List Char) := do
  let (year, cs) ← exactNumber? 4 cs
  let cs ← literal? '-' cs
  let (month, cs) ← exactNumber? 2 cs
  let cs ← literal? '-' cs
  let (day, cs) ← exactNumber? 2 cs
  let cs ←
    match cs with
    | c :: rest => if c = 'T' ∨ c = 't' ∨ c = ' ' then some rest else none
    | [] => none
  let (hour, cs) ← exactNumber? 2 cs
  let cs ← literal? ':' cs
  let (minute, cs) ← exactNumber? 2 cs
  let cs ← literal? ':' cs
  let (second, cs) ← exactNumber? 2 cs
  if isDay year month day && isTime hour minute second then some cs else none

/-- Whether a whole text is a timestamp with an offset. -/
def isTimestamp (cs : List Char) : Bool :=
  match (fixedDateTime? cs).bind decimals? with
  | some rest => isOffset rest
  | none => false

/-- Whether a whole text has one of the four forms of a date or a moment. -/
def isMoment (cs : List Char) : Bool :=
  isDate cs || isSpacedDateTime cs || isJoinedDateTime cs || isTimestamp cs

end Calendar
end AnalyticsQuery
