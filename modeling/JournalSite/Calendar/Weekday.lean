import JournalSite.Calendar.DayNumber

/-!
# Weekdays

The seven days of the week, and the one that a calendar day falls on. Within a
year the weekday advances with the days; from one New Year's Day to the next it
moves on by one, and by two after a leap year.
-/

namespace JournalSite

/-- The days of the week. -/
inductive Weekday where
  /-- The first day of the week. -/
  | monday
  /-- The day after Monday. -/
  | tuesday
  /-- The day after Tuesday. -/
  | wednesday
  /-- The day after Wednesday. -/
  | thursday
  /-- The day after Thursday. -/
  | friday
  /-- The day after Friday. -/
  | saturday
  /-- The day after Saturday. -/
  | sunday
  deriving DecidableEq, Repr

namespace Weekday

/-- The weekday `n` days after a Monday. -/
def afterMonday (n : Nat) : Weekday :=
  match n % 7 with
  | 0 => monday
  | 1 => tuesday
  | 2 => wednesday
  | 3 => thursday
  | 4 => friday
  | 5 => saturday
  | _ => sunday

/-- The English name of a weekday. -/
def name : Weekday → String
  | monday => "Monday"
  | tuesday => "Tuesday"
  | wednesday => "Wednesday"
  | thursday => "Thursday"
  | friday => "Friday"
  | saturday => "Saturday"
  | sunday => "Sunday"

/-- The weekday that follows. -/
def next : Weekday → Weekday
  | monday => tuesday
  | tuesday => wednesday
  | wednesday => thursday
  | thursday => friday
  | friday => saturday
  | saturday => sunday
  | sunday => monday

end Weekday

/-- How many days after a Monday 1 January of `year` falls, up to whole weeks. -/
def newYearShift (year : Int) : Nat :=
  (((year - 1) + (year - 1) / 4 - (year - 1) / 100 + (year - 1) / 400) % 7).toNat

/-- The weekday a day falls on. -/
def Day.weekday (d : Day) : Weekday :=
  Weekday.afterMonday (newYearShift d.year + daysBeforeMonth d.year d.month + d.day - 1)

end JournalSite
