import JournalSite.Calendar.DayText
import JournalSite.Text.Blank

/-!
# Moments in headers

A moment is written as a weekday, a day and a time of day in universal time. Of
the three written forms one is in use and two are old: `Sun, 06 Nov 1994 08:49:37
GMT`, `Sunday, 06-Nov-94 08:49:37 GMT` and `Sun Nov  6 08:49:37 1994`. A year of
two digits lies between 1970 and 2069. A text whose day does not exist, or falls
on another weekday, is no moment, nor is one with characters other than those of
ASCII. A moment is a number of seconds since 1970-01-01.
-/

namespace JournalSite.Http

open JournalSite.Text

/-- The first three letters of a name. -/
def shortName (name : String) : List Char := name.toList.take 3

/-- The month with a short name. -/
def month? (cs : List Char) : Option Nat :=
  (List.range' 1 12).find? fun month => shortName (monthName month) == cs

/-- The number of a text that is `width` digits. -/
def fixedNumber? (width : Nat) (cs : List Char) : Option Nat :=
  if cs.length = width ∧ cs.all Char.isDigit then some (digitsValue cs) else none

/-- The second of the day of a time such as `08:49:37`. -/
def secondOfDay? (cs : List Char) : Option Nat :=
  match cs.splitOn ':' with
  | [hour, minute, second] => do
    let hour ← fixedNumber? 2 hour
    let minute ← fixedNumber? 2 minute
    let second ← fixedNumber? 2 second
    if hour < 24 ∧ minute < 60 ∧ second < 60 then some (hour * 3600 + minute * 60 + second)
    else none
  | _ => none

/-- The moment at a second of a day, if the day is in the years that are written and the weekday
has the name `isNamed` accepts. -/
def moment? (isNamed : String → Bool) (year month day second : Nat) : Option Int :=
  match Day.ofParts? year month day with
  | some d =>
    if 1970 ≤ year ∧ isNamed d.weekday.name then some (d.number * 86400 + second) else none
  | none => none

/-- The moment in the form in use. -/
def currentForm? : List (List Char) → Option Int
  | [weekday, day, month, year, time, ['G', 'M', 'T']] => do
    let day ← fixedNumber? 2 day
    let month ← month? month
    let year ← fixedNumber? 4 year
    let second ← secondOfDay? time
    moment? (fun name => shortName name ++ [','] == weekday) year month day second
  | _ => none

/-- The moment in the form with the full name of the weekday and two digits of the year. Any
character may part the day from the time. -/
def fullNameForm? (cs : List Char) : Option Int :=
  let weekday := cs.takeWhile (· != ' ')
  let rest := (cs.dropWhile (· != ' ')).drop 1
  match (rest.take 9).splitOn '-' with
  | [day, month, year] =>
    if rest.drop 18 = " GMT".toList then do
      let day ← fixedNumber? 2 day
      let month ← month? month
      let year ← fixedNumber? 2 year
      let second ← secondOfDay? ((rest.drop 10).take 8)
      moment? (fun name => name.toList ++ [','] == weekday)
        (if year < 70 then 2000 + year else 1900 + year) month day second
    else none
  | _ => none

/-- The moment in the form with the year at the end. A day of one digit has two blanks before
it. -/
def yearLastForm? (pieces : List (List Char)) : Option Int := do
  let (weekday, month, day, time, year) ←
    match pieces with
    | [weekday, month, [], [digit], time, year] => some (weekday, month, ['0', digit], time, year)
    | [weekday, month, day, time, year] => some (weekday, month, day, time, year)
    | _ => none
  let day ← fixedNumber? 2 day
  let month ← month? month
  let year ← fixedNumber? 4 year
  let second ← secondOfDay? time
  moment? (fun name => shortName name == weekday) year month day second

/-- The moment a header names. -/
def readMoment? (s : String) : Option Int :=
  if s.toList.all (·.toNat < 0x80) then
    let text := trim s.toList
    let pieces := text.splitOn ' '
    (currentForm? pieces).or ((fullNameForm? text).or (yearLastForm? pieces))
  else none

end JournalSite.Http
