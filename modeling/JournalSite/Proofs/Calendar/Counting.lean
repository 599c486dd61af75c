import JournalSite.Calendar.Weekday
import JournalSite.Proofs.Calendar.Numbering

/-!
# Counting the days from 1970

The number of a day and the weekday it falls on are computed from its year, month and
day. Both are also said here without computing: take 1970-01-01, a Thursday, with the
count 0, and turn the leaves of the calendar, forwards and backwards. One leaf is one
more or one less in the count (`Counted`), and the weekdays go round by sevens
(`Weekday.fromThursday`).

**`counted_iff`** says that the number of a day is its count, and
**`Day.weekday_eq`** that the day falls on the weekday that its count leads to. A year
has one day or two more than whole weeks, so from one New Year's Day to the next the
weekday moves on by as much as the days before the year do, and both go by the same
leap years.
-/

namespace JournalSite

/-! ### One leaf after the other -/

/-- The day that the count begins with, and that the seconds of a clock are counted from. -/
def epochDay : Day := ⟨1970, 1, 1, by decide⟩

theorem number_epochDay : epochDay.number = 0 := by decide

/-- The days and their counts: 1970-01-01 has the count 0, the day after a day has one more and the
day before it one less. -/
inductive Counted : Day → Int → Prop where
  /-- The count begins. -/
  | epoch : Counted epochDay 0
  /-- One leaf forwards, unless the calendar ends. -/
  | next {d : Day} {n : Int} : Counted d n → d ≠ Day.last → Counted d.next (n + 1)
  /-- One leaf backwards, unless the calendar begins. -/
  | previous {d : Day} {n : Int} : Counted d n → d ≠ Day.first → Counted d.previous (n - 1)

theorem Counted.number_eq {d : Day} {n : Int} (h : Counted d n) : d.number = n := by
  induction h with
  | epoch => exact number_epochDay
  | next _ hne ih => rw [Day.number_next hne, ih]
  | previous _ hne ih => rw [Day.number_previous hne, ih]

theorem exists_counted_of_nonneg {n : Int} (h : 0 ≤ n) (hn : n ≤ Day.last.number) :
    ∃ d, Counted d n := by
  induction n, h using Int.leInduction with
  | base => exact ⟨epochDay, .epoch⟩
  | succ n h ih =>
    obtain ⟨d, hd⟩ := ih (by omega)
    have hne : d ≠ Day.last := by
      rintro rfl
      have hnumber := hd.number_eq
      omega
    exact ⟨d.next, hd.next hne⟩

theorem exists_counted_of_nonpos {n : Int} (h : n ≤ 0) (hn : Day.first.number ≤ n) :
    ∃ d, Counted d n := by
  induction n, h using Int.leInductionDown with
  | base => exact ⟨epochDay, .epoch⟩
  | pred n h ih =>
    obtain ⟨d, hd⟩ := ih (by omega)
    have hne : d ≠ Day.first := by
      rintro rfl
      have hnumber := hd.number_eq
      omega
    exact ⟨d.previous, hd.previous hne⟩

/-- **The number of a day is its count.** -/
theorem counted_iff {d : Day} {n : Int} : Counted d n ↔ d.number = n := by
  refine ⟨Counted.number_eq, ?_⟩
  rintro rfl
  have hcounted : ∃ e, Counted e d.number := by
    rcases Int.le_total 0 d.number with h | h
    · exact exists_counted_of_nonneg h d.number_le_last
    · exact exists_counted_of_nonpos h d.first_number_le
  obtain ⟨e, he⟩ := hcounted
  have heq : e = d := Day.number_injective he.number_eq
  rwa [heq] at he

/-! ### Weekdays -/

namespace Weekday

theorem next_iterate_seven (w : Weekday) : next^[7] w = w := by
  cases w <;> rfl

/-- Whole weeks do not count. -/
theorem next_iterate_mod (n : Nat) (w : Weekday) : next^[n % 7] w = next^[n] w :=
  Function.IsPeriodicPt.iterate_mod_apply (next_iterate_seven w) n

theorem afterMonday_eq (n : Nat) : afterMonday n = next^[n] monday := by
  have hlt : n % 7 < 7 := Nat.mod_lt n (by decide)
  rw [← next_iterate_mod, afterMonday]
  interval_cases n % 7 <;> rfl

/-- The weekday `n` days after a Thursday, or before it if `n` is negative. -/
def fromThursday (n : Int) : Weekday := next^[(n % 7).toNat] thursday

/-- The day after has the weekday that follows, Monday after Sunday too. -/
theorem fromThursday_add_one (n : Int) : fromThursday (n + 1) = (fromThursday n).next := by
  have hmod : ((n + 1) % 7).toNat = ((n % 7).toNat + 1) % 7 := by omega
  rw [fromThursday, hmod, next_iterate_mod, Function.iterate_succ_apply', fromThursday]

end Weekday

/-- A New Year's Day is moved on by the days before its year, up to whole weeks. -/
theorem newYearShift_eq (year : Int) : (newYearShift year : Int) = daysBeforeYear year % 7 := by
  unfold newYearShift daysBeforeYear
  omega

namespace Day

/-- **The weekday of a day** is the one that its number leads to, from the Thursday with the number
0. -/
theorem weekday_eq (d : Day) : d.weekday = Weekday.fromThursday d.number := by
  have hshift := newYearShift_eq d.year
  have hday := d.isDay.2.2.2.2.1
  have hweeks : (newYearShift d.year + daysBeforeMonth d.year d.month + d.day - 1) % 7 =
      ((d.number % 7).toNat + 3) % 7 := by
    unfold number daysBefore1970
    omega
  rw [weekday, Weekday.afterMonday_eq, ← Weekday.next_iterate_mod, hweeks,
    Weekday.next_iterate_mod, Function.iterate_add_apply, Weekday.fromThursday]
  rfl

example : (⟨-1, 12, 31, by decide⟩ : Day).weekday = .friday := by decide

/-- The day after falls on the weekday that follows. -/
theorem weekday_next {d : Day} (h : d ≠ last) : d.next.weekday = d.weekday.next := by
  rw [weekday_eq, number_next h, Weekday.fromThursday_add_one, weekday_eq]

end Day

end JournalSite
