import JournalSite.Calendar.Day

/-!
# Day numbers

The days are numbered one after the other, 1970-01-01 with 0 and the days before
it with negative numbers. `Day.number` counts them by whole years and months;
`Day.ofNumber?` goes back from a number to the day, by the cycles of 400, 100 and
4 years in which leap years come round.
-/

namespace JournalSite

/-- How many days lie between 1 January of the year 1 and 1 January of `year`. -/
def daysBeforeYear (year : Int) : Int :=
  365 * (year - 1) + (year - 1) / 4 - (year - 1) / 100 + (year - 1) / 400

/-- How many days of `year` lie before the first of `month`. -/
def daysBeforeMonth (year : Int) : Nat → Nat
  | 0 => 0
  | 1 => 0
  | month + 2 => daysBeforeMonth year (month + 1) + monthLength year (month + 1)

/-- How many days lie between 1 January of the year 1 and 1970-01-01. -/
def daysBefore1970 : Int := 719162

/-- The year that the day `n` after 1 January of the year 1 falls in, and how many days of that
year lie before it. -/
def yearAndRest (n : Int) : Int × Nat :=
  let inEra := n % 146097
  let century := min (inEra / 36524) 3
  let inCentury := inEra - 36524 * century
  let inCycle := inCentury % 1461
  let yearOfCycle := min (inCycle / 365) 3
  (400 * (n / 146097) + 100 * century + 4 * (inCentury / 1461) + yearOfCycle + 1,
    (inCycle - 365 * yearOfCycle).toNat)

/-- The month that holds the day with `k` days of its year before it. -/
def monthAt (year : Int) (k : Nat) : Nat :=
  (List.range' 2 11).countP (fun month => decide (daysBeforeMonth year month ≤ k)) + 1

namespace Day

/-- The number of a day, counted from 1970-01-01. -/
def number (d : Day) : Int :=
  daysBeforeYear d.year + daysBeforeMonth d.year d.month + d.day - 1 - daysBefore1970

/-- The day with a given number, if it lies in the range of years. -/
def ofNumber? (n : Int) : Option Day :=
  let (year, rest) := yearAndRest (n + daysBefore1970)
  let month := monthAt year rest
  ofParts? year month (rest - daysBeforeMonth year month + 1)

end Day

end JournalSite
