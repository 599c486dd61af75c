import JournalSite.Proofs.Journal.DayLinks
import JournalSite.Proofs.Journal.Redirect

/-!
# The address that a clock leads to

A clock is given as the seconds since 1970 began, before it if they are negative, and
a nanosecond on top. The address it leads to is that of the day which is as many days
from 1970-01-01 as there are whole days in the seconds, rounded down and not towards
zero. The nanosecond plays no part in it: a leap second is counted with the second
before it and stays in its day.

**`clock_leads_to_floor`** says so of every clock that there is, and says which clocks
there are. On the way the day is found by its number, and counted here leaf by leaf
(`Counted`).
-/

namespace JournalSite

/-- Two days do not share an address. -/
theorem journalTarget_injective : Function.Injective journalTarget := by
  intro d e h
  have hhash : dailyHash d = dailyHash e := by
    rw [← fragmentOf_journalTarget d, ← fragmentOf_journalTarget e, h]
  have hread := parseDailyHash_dailyHash d
  rw [hhash, parseDailyHash_dailyHash e] at hread
  cases hread
  rfl

/-- There is a clock for the seconds and the nanosecond exactly if a day is counted by the whole
days in the seconds, and the last second of a minute alone has more than a thousand million
nanoseconds. -/
theorem isSome_ofUnixTime?_iff {seconds : Int} {nanosecond : Nat} :
    (Clock.ofUnixTime? seconds nanosecond).isSome = true ↔
      (∃ d, Counted d (seconds / 86400)) ∧
        (nanosecond < 1000000000 ∨ nanosecond < 2000000000 ∧ seconds % 60 = 59) := by
  rw [Option.isSome_iff_exists]
  constructor
  · rintro ⟨now, hnow⟩
    obtain ⟨hday, hsecond, rfl⟩ := ofUnixTime?_eq_some_iff.1 hnow
    refine ⟨⟨now.day, counted_iff.2 hday⟩, ?_⟩
    have hadmits := now.admits
    unfold AdmitsNanosecond at hadmits
    omega
  · rintro ⟨⟨d, hd⟩, hnano⟩
    obtain ⟨now, hnow, -⟩ := exists_ofUnixTime?_eq_some (counted_iff.1 hd) hnano
    exact ⟨now, hnow⟩

/-- The day of a clock, and no other, is counted by the whole days in its seconds. -/
theorem counted_iff_of_ofUnixTime? {seconds : Int} {nanosecond : Nat} {now : Clock}
    (h : Clock.ofUnixTime? seconds nanosecond = some now) (e : Day) :
    Counted e (seconds / 86400) ↔ e = now.day := by
  rw [counted_iff, ← (ofUnixTime?_eq_some_iff.1 h).1]
  exact Day.number_injective.eq_iff

/-- The seconds of a day fit a signed word of 64 bits. -/
theorem seconds_bounds {d : Day} {n : Int} {second : Nat} (hd : Counted d n)
    (hsecond : second < 86400) :
    -2 ^ 63 ≤ 86400 * n + second ∧ 86400 * n + second < 2 ^ 63 := by
  have hfirst : Day.first.number = -96465292 := by decide
  have hlast : Day.last.number = 95026236 := by decide
  have hlow := d.first_number_le
  have hhigh := d.number_le_last
  rw [hd.number_eq] at hlow hhigh
  omega

/-- Every second of a day, and every nanosecond that it admits, has a clock, which shows the day. -/
theorem exists_clock_of_counted {d : Day} {n : Int} {second nanosecond : Nat} (hd : Counted d n)
    (hsecond : second < 86400) (hnano : AdmitsNanosecond second nanosecond) :
    ∃ now, Clock.ofUnixTime? (86400 * n + second) nanosecond = some now ∧ now.day = d := by
  have hfloor : d.number = (86400 * n + second) / 86400 := by
    rw [hd.number_eq]
    omega
  apply exists_ofUnixTime?_eq_some hfloor
  unfold AdmitsNanosecond at hnano
  omega

/-- **The clock leads to the floor of its seconds.** There is a clock for `seconds` since 1970-01-01
and a nanosecond on top exactly if a day of the calendar is counted by `seconds / 86400`, rounded
down, and the nanosecond is below a thousand million, or below two thousand million in the last
second of a minute. That is one day only. The clock leads to its address, whatever the nanosecond
is, and so does the redirect. So two clocks lead to one address exactly if their seconds have the
same floor, and every second of every day, which fits a signed word of 64 bits, leads to the address
of the day. -/
theorem clock_leads_to_floor :
    (∀ (seconds : Int) (nanosecond : Nat),
      ((Clock.ofUnixTime? seconds nanosecond).isSome = true ↔
        (∃ d, Counted d (seconds / 86400)) ∧
          (nanosecond < 1000000000 ∨ nanosecond < 2000000000 ∧ seconds % 60 = 59)) ∧
      ∀ now ∈ Clock.ofUnixTime? seconds nanosecond,
        ∃ d, (∀ e, Counted e (seconds / 86400) ↔ e = d) ∧
          journalTargetAt now = journalTarget d ∧
          (redirectCalls now).map Prod.fst = [journalTarget d]) ∧
    (∀ (seconds seconds' : Int) (nanosecond nanosecond' : Nat),
      ∀ now ∈ Clock.ofUnixTime? seconds nanosecond,
      ∀ now' ∈ Clock.ofUnixTime? seconds' nanosecond',
        (journalTargetAt now = journalTargetAt now' ↔ seconds / 86400 = seconds' / 86400)) ∧
    ∀ (d : Day) (n : Int), Counted d n → ∀ second : Nat, second < 86400 →
      (-2 ^ 63 ≤ 86400 * n + second ∧ 86400 * n + second < 2 ^ 63) ∧
      ∀ nanosecond, AdmitsNanosecond second nanosecond →
        ∃ now, Clock.ofUnixTime? (86400 * n + second) nanosecond = some now ∧
          journalTargetAt now = journalTarget d := by
  refine ⟨fun seconds nanosecond => ⟨isSome_ofUnixTime?_iff, fun now hnow => ?_⟩, ?_, ?_⟩
  · exact ⟨now.day, counted_iff_of_ofUnixTime? hnow, rfl, rfl⟩
  · intro seconds seconds' nanosecond nanosecond' now hnow now' hnow'
    have hday := (ofUnixTime?_eq_some_iff.1 hnow).1
    have hday' := (ofUnixTime?_eq_some_iff.1 hnow').1
    rw [← hday, ← hday']
    constructor
    · intro h
      rw [journalTarget_injective h]
    · intro h
      rw [journalTargetAt, Day.number_injective h, journalTargetAt]
  · intro d n hd second hsecond
    refine ⟨seconds_bounds hd hsecond, fun nanosecond hnano => ?_⟩
    obtain ⟨now, hnow, rfl⟩ := exists_clock_of_counted hd hsecond hnano
    exact ⟨now, hnow, rfl⟩

/-- A leap second before 1970 leads to the last day of 1969. -/
theorem clock_leads_to_floor_leap_second :
    Counted epochDay.previous (-1) ∧ 86399 < 86400 ∧ AdmitsNanosecond 86399 1999999999 ∧
      ∃ now, Clock.ofUnixTime? (86400 * (-1) + (86399 : Nat)) 1999999999 = some now ∧
        journalTargetAt now = journalTarget epochDay.previous := by
  have hcounted : Counted epochDay.previous (-1) := Counted.epoch.previous (by decide)
  exact ⟨hcounted, by decide, by decide,
    (clock_leads_to_floor.2.2 _ _ hcounted 86399 (by decide)).2 1999999999 (by decide)⟩

end JournalSite
