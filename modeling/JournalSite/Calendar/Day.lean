/-!
# Calendar days

A calendar day is a year, a month and a day of the month in the Gregorian
calendar, carried back before its introduction and through the year 0 into
negative years. The years run from `firstYear` to `lastYear`, whole years each,
so the first day of all is a 1 January and the last a 31 December.

A `Day` always is a day that exists: `Day.ofParts?` gives none for 30 February
and for years outside the range. `Day.next` and `Day.previous` turn the leaves of
a calendar, and stay where they are at the two ends.
-/

namespace JournalSite

/-- The first year with days. -/
def firstYear : Int := -262143

/-- The last year with days. -/
def lastYear : Int := 262142

/-- A leap year is divisible by 4, and if it ends a century, by 400. -/
def isLeapYear (year : Int) : Bool :=
  year % 4 == 0 && (year % 100 != 0 || year % 400 == 0)

/-- How many days a month has. Months are numbered from 1. -/
def monthLength (year : Int) (month : Nat) : Nat :=
  if month = 2 then
    if isLeapYear year then 29 else 28
  else if month = 4 ∨ month = 6 ∨ month = 9 ∨ month = 11 then 30
  else 31

theorem monthLength_ge (year : Int) (month : Nat) : 28 ≤ monthLength year month := by
  unfold monthLength
  repeat' split
  all_goals omega

theorem monthLength_le (year : Int) (month : Nat) : monthLength year month ≤ 31 := by
  unfold monthLength
  repeat' split
  all_goals omega

/-- The numbers of a year, a month and a day that together name a calendar day. -/
def IsDay (year : Int) (month day : Nat) : Prop :=
  firstYear ≤ year ∧ year ≤ lastYear ∧ 1 ≤ month ∧ month ≤ 12 ∧
    1 ≤ day ∧ day ≤ monthLength year month

instance (year : Int) (month day : Nat) : Decidable (IsDay year month day) :=
  inferInstanceAs (Decidable (_ ∧ _))

/-- A day of the calendar. -/
@[ext] structure Day where
  /-- The year, counted through 0 into negative years. -/
  year : Int
  /-- The month, 1 to 12. -/
  month : Nat
  /-- The day of the month, from 1. -/
  day : Nat
  /-- The three numbers name a day that exists. -/
  isDay : IsDay year month day
  deriving DecidableEq

namespace Day

/-- The day with these numbers, if there is one. -/
def ofParts? (year : Int) (month day : Nat) : Option Day :=
  if h : IsDay year month day then some ⟨year, month, day, h⟩ else none

theorem ofParts?_eq_some_iff {year : Int} {month day : Nat} {d : Day} :
    ofParts? year month day = some d ↔ d.year = year ∧ d.month = month ∧ d.day = day := by
  unfold ofParts?
  constructor
  · intro h
    split at h
    · cases h
      exact ⟨rfl, rfl, rfl⟩
    · cases h
  · rintro ⟨rfl, rfl, rfl⟩
    rw [dif_pos d.isDay]

@[simp] theorem ofParts?_parts (d : Day) : ofParts? d.year d.month d.day = some d :=
  ofParts?_eq_some_iff.2 ⟨rfl, rfl, rfl⟩

/-- The day after: the next of the month, else the first of the next month, else New Year's Day.
The last day of all is followed by itself. -/
def next (d : Day) : Day :=
  ((ofParts? d.year d.month (d.day + 1)).or
    ((ofParts? d.year (d.month + 1) 1).or
      (ofParts? (d.year + 1) 1 1))).getD d

/-- The day before: the previous of the month, else the last of the month before, else New Year's
Eve. The first day of all is preceded by itself. -/
def previous (d : Day) : Day :=
  ((ofParts? d.year d.month (d.day - 1)).or
    ((ofParts? d.year (d.month - 1) (monthLength d.year (d.month - 1))).or
      (ofParts? (d.year - 1) 12 31))).getD d

/-- Days are compared by year, then month, then day of the month. -/
def compare (d e : Day) : Ordering :=
  (Ord.compare d.year e.year).then ((Ord.compare d.month e.month).then (Ord.compare d.day e.day))

end Day

end JournalSite
