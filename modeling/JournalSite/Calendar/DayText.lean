import JournalSite.Calendar.Weekday
import JournalSite.Text.Blank
import JournalSite.Text.Digits

/-!
# Days in writing

A day is written in two ways. Its *date* is for addresses: year, month and day in
digits, joined by hyphens. Its *heading* is for people: weekday, month name, day
and year. A year of 0 to 9999 has four digits; any other has its sign and at
least four digits.

`Day.ofDate?` reads a date from left to right and is more generous than the
writer: blanks may stand before each number, a year without a sign may have one
to four digits and a signed one any number of them, a month and a day one or two.
It takes as many digits as it can, and stops at the first fault (`DateFault`).
-/

namespace JournalSite

open Text

/-- The name of a month, `January` for 1. -/
def monthName (month : Nat) : String :=
  match month with
  | 1 => "January"
  | 2 => "February"
  | 3 => "March"
  | 4 => "April"
  | 5 => "May"
  | 6 => "June"
  | 7 => "July"
  | 8 => "August"
  | 9 => "September"
  | 10 => "October"
  | 11 => "November"
  | _ => "December"

/-- A year in writing: four digits, or a sign and at least four digits. -/
def yearChars (year : Int) : List Char :=
  if 0 ≤ year ∧ year ≤ 9999 then padded 4 year.natAbs
  else (if year < 0 then '-' else '+') :: padded 4 year.natAbs

namespace Day

/-- The date of a day: year, month and day joined by hyphens. -/
def dateChars (d : Day) : List Char :=
  yearChars d.year ++ '-' :: (padded 2 d.month ++ '-' :: padded 2 d.day)

/-- The date of a day as a string. -/
def date (d : Day) : String :=
  String.ofList d.dateChars

/-- The heading of a day: weekday, month, day of the month and year. -/
def heading (d : Day) : String :=
  d.weekday.name ++ ", " ++ monthName d.month ++ " " ++ decimal d.day ++ ", " ++
    String.ofList (yearChars d.year)

end Day

/-! ### Reading a date -/

/-- What is wrong with a text that is no date. -/
inductive DateFault where
  /-- The text ends where something is still required. -/
  | endsEarly
  /-- A character stands where another is required. -/
  | unexpectedCharacter
  /-- A number is too large or too small, or there is no such day. -/
  | outOfRange
  /-- Something is left over after the day. -/
  | leftOver
  deriving DecidableEq, Repr

/-- A fault in words. -/
def DateFault.message : DateFault → String
  | endsEarly => "premature end of input"
  | unexpectedCharacter => "input contains invalid characters"
  | outOfRange => "input is out of range"
  | leftOver => "trailing input"

namespace DateReading

/-- Reads a numeral of one to `width` digits. Gives its value and the text after it. -/
def readNumeral (width : Nat) (cs : List Char) : Except DateFault (Nat × List Char) :=
  let digits := digitRun width cs
  if cs.isEmpty then .error .endsEarly
  else if digits.isEmpty then .error .unexpectedCharacter
  else .ok (digitsValue digits, cs.drop digits.length)

/-- Reads a year: a sign and any number of digits, or one to four digits. The year has to fit a
signed word of 32 bits. -/
def readYear (cs : List Char) : Except DateFault (Int × List Char) := do
  let (value, rest) ← match trimStart cs with
    | '-' :: cs => (readNumeral cs.length cs).map fun (n, rest) => (-(n : Int), rest)
    | '+' :: cs => (readNumeral cs.length cs).map fun (n, rest) => ((n : Int), rest)
    | cs => (readNumeral 4 cs).map fun (n, rest) => ((n : Int), rest)
  if -2147483648 ≤ value ∧ value ≤ 2147483647 then .ok (value, rest) else .error .outOfRange

/-- Reads a month or a day of the month: one or two digits, from 1 to `greatest`. -/
def readPart (greatest : Nat) (cs : List Char) : Except DateFault (Nat × List Char) := do
  let (value, rest) ← readNumeral 2 (trimStart cs)
  if 1 ≤ value ∧ value ≤ greatest then .ok (value, rest) else .error .outOfRange

/-- Reads a hyphen. -/
def readHyphen : List Char → Except DateFault (List Char)
  | [] => .error .endsEarly
  | '-' :: rest => .ok rest
  | _ :: _ => .error .unexpectedCharacter

end DateReading

open DateReading in
/-- The day that a text names, or the first fault of the text. -/
def Day.ofDateChars? (cs : List Char) : Except DateFault Day := do
  let (y, cs) ← readYear cs
  let cs ← readHyphen cs
  let (m, cs) ← readPart 12 cs
  let cs ← readHyphen cs
  let (d, cs) ← readPart 31 cs
  if cs.isEmpty then
    match Day.ofParts? y m d with
    | some day => .ok day
    | none => .error .outOfRange
  else .error .leftOver

/-- `Day.ofDateChars?` on strings. -/
def Day.ofDate? (s : String) : Except DateFault Day :=
  Day.ofDateChars? s.toList

end JournalSite
