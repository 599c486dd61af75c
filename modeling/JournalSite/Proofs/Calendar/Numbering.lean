import JournalSite.Calendar.DayNumber
import Mathlib

/-!
# The numbering of the days

`Day.number` counts the days before a day by whole years and whole months, with a
rule for leap years that looks at one year and is summed up in closed form. Here it
is shown that this is the numbering of the calendar, one number after the other:

* days compare as their numbers do (`Day.compare_eq`), so no two have one number;
* the next day has the next number, but for the last day of all, and the day before
  the number before (`Day.number_next`, `Day.number_previous`);
* the numbers of the days are those from that of the first day to that of the last,
  and `Day.ofNumber?` goes back from them by the cycles of 400, 100 and 4 years
  (`Day.ofNumber?_eq_some_iff`).

All of it comes from two facts: a year, and within it a month, begins where the one
before it ends (`daysBeforeYear_succ`, `daysBeforeMonth_succ`).
-/

namespace JournalSite

/-! ### Years -/

/-- How many days a year has. -/
def yearLength (year : Int) : Nat :=
  if isLeapYear year then 366 else 365

theorem isLeapYear_iff (year : Int) :
    isLeapYear year = true ↔ year % 4 = 0 ∧ (year % 100 ≠ 0 ∨ year % 400 = 0) := by
  simp [isLeapYear]

/-- A year begins where the year before it ends. -/
theorem daysBeforeYear_succ (year : Int) :
    daysBeforeYear (year + 1) = daysBeforeYear year + yearLength year := by
  unfold daysBeforeYear yearLength
  by_cases h : isLeapYear year = true
  · rw [if_pos h]
    rw [isLeapYear_iff] at h
    omega
  · rw [if_neg h]
    rw [isLeapYear_iff] at h
    omega

theorem daysBeforeYear_mono : Monotone daysBeforeYear :=
  monotone_int_of_le_succ fun year => by
    rw [daysBeforeYear_succ]
    omega

/-- All days of a year come before the years after it. -/
theorem daysBeforeYear_add_yearLength_le {year later : Int} (h : year < later) :
    daysBeforeYear year + yearLength year ≤ daysBeforeYear later := by
  rw [← daysBeforeYear_succ]
  exact daysBeforeYear_mono (Int.add_one_le_of_lt h)

/-- A year and a number of days of that year are known by the number of all days before. -/
theorem year_unique {year year' : Int} {k k' : Nat} (hk : k < yearLength year)
    (hk' : k' < yearLength year') (h : daysBeforeYear year + k = daysBeforeYear year' + k') :
    year = year' ∧ k = k' := by
  rcases Int.lt_trichotomy year year' with hlt | rfl | hlt
  · have := daysBeforeYear_add_yearLength_le hlt
    omega
  · exact ⟨rfl, by omega⟩
  · have := daysBeforeYear_add_yearLength_le hlt
    omega

/-! ### Months -/

/-- A month begins where the month before it ends. -/
theorem daysBeforeMonth_succ (year : Int) {month : Nat} (h : 1 ≤ month) :
    daysBeforeMonth year (month + 1) = daysBeforeMonth year month + monthLength year month := by
  obtain ⟨m, rfl⟩ := Nat.exists_eq_add_of_le' h
  rfl

theorem daysBeforeMonth_mono (year : Int) : Monotone (daysBeforeMonth year) :=
  monotone_nat_of_le_succ fun month => by
    cases month with
    | zero => exact Nat.le_refl 0
    | succ m =>
      rw [daysBeforeMonth_succ year (Nat.le_add_left 1 m)]
      omega

/-- All days of a month come before the months after it. -/
theorem daysBeforeMonth_add_monthLength_le (year : Int) {month later : Nat} (h₁ : 1 ≤ month)
    (h : month < later) :
    daysBeforeMonth year month + monthLength year month ≤ daysBeforeMonth year later := by
  rw [← daysBeforeMonth_succ year h₁]
  exact daysBeforeMonth_mono year h

theorem daysBeforeMonth_january (year : Int) : daysBeforeMonth year 1 = 0 := rfl

/-- The months fill the year. -/
theorem daysBeforeMonth_thirteen (year : Int) : daysBeforeMonth year 13 = yearLength year := by
  simp only [daysBeforeMonth, monthLength, yearLength]
  cases isLeapYear year with
  | false => rfl
  | true => rfl

/-- December has the last 31 days of the year. -/
theorem daysBeforeMonth_december (year : Int) : daysBeforeMonth year 12 + 31 = yearLength year :=
  daysBeforeMonth_thirteen year

/-! ### The order of the days -/

namespace Day

/-- Which day of its year a day is, counted from 1. -/
def ordinal (d : Day) : Nat := daysBeforeMonth d.year d.month + d.day

theorem one_le_ordinal (d : Day) : 1 ≤ d.ordinal := by
  obtain ⟨-, -, -, -, hd, -⟩ := d.isDay
  unfold ordinal
  omega

theorem ordinal_le_yearLength (d : Day) : d.ordinal ≤ yearLength d.year := by
  obtain ⟨-, -, hm₁, hm₂, -, hd⟩ := d.isDay
  have h := daysBeforeMonth_add_monthLength_le d.year hm₁ (Nat.lt_succ_of_le hm₂)
  rw [daysBeforeMonth_thirteen] at h
  unfold ordinal
  omega

theorem number_eq (d : Day) :
    d.number = daysBeforeYear d.year + (d.ordinal - 1 : Nat) - daysBefore1970 := by
  have h := d.one_le_ordinal
  unfold number
  unfold ordinal at *
  omega

theorem number_lt_of_year_lt {d e : Day} (h : d.year < e.year) : d.number < e.number := by
  have hyear := daysBeforeYear_add_yearLength_le h
  have hone := d.one_le_ordinal
  have hlength := d.ordinal_le_yearLength
  rw [number_eq, number_eq]
  omega

theorem number_lt_of_month_lt {d e : Day} (hy : d.year = e.year) (h : d.month < e.month) :
    d.number < e.number := by
  obtain ⟨-, -, hm, -, -, hd⟩ := d.isDay
  obtain ⟨-, -, -, -, he, -⟩ := e.isDay
  have hmonth := daysBeforeMonth_add_monthLength_le d.year hm h
  unfold number
  rw [← hy]
  omega

theorem number_lt_of_day_lt {d e : Day} (hy : d.year = e.year) (hm : d.month = e.month)
    (h : d.day < e.day) : d.number < e.number := by
  unfold number
  rw [← hy, ← hm]
  omega

/-- A comparison by a first key, and by `tie` where that is equal, is one of numbers if the first
key decides about the numbers too, and `tie` does where it does not. -/
theorem then_eq_compare {Key : Type} [LinearOrder Key] {a b : Key} {tie : Ordering} {n m : Int}
    (hlt : a < b → n < m) (heq : a = b → tie = Ord.compare n m) (hgt : b < a → m < n) :
    (Ord.compare a b).then tie = Ord.compare n m := by
  rcases lt_trichotomy a b with h | h | h
  · rw [compare_lt_iff_lt.2 h, compare_lt_iff_lt.2 (hlt h), Ordering.lt_then]
  · rw [compare_eq_iff_eq.2 h, Ordering.eq_then, heq h]
  · rw [compare_gt_iff_gt.2 h, compare_gt_iff_gt.2 (hgt h), Ordering.gt_then]

/-- **The numbers follow the calendar**: days compare as their numbers do. -/
theorem compare_eq (d e : Day) : d.compare e = Ord.compare d.number e.number := by
  refine then_eq_compare number_lt_of_year_lt (fun hy => ?_) number_lt_of_year_lt
  refine then_eq_compare (number_lt_of_month_lt hy) (fun hm => ?_) (number_lt_of_month_lt hy.symm)
  rcases Nat.lt_trichotomy d.day e.day with hd | hd | hd
  · rw [compare_lt_iff_lt.2 hd, compare_lt_iff_lt.2 (number_lt_of_day_lt hy hm hd)]
  · rw [show d = e from Day.ext hy hm hd, compare_eq_iff_eq.2 rfl, compare_eq_iff_eq.2 rfl]
  · rw [compare_gt_iff_gt.2 hd, compare_gt_iff_gt.2 (number_lt_of_day_lt hy.symm hm.symm hd)]

/-- No two days have one number. -/
theorem number_injective : Function.Injective number := by
  intro d e h
  have hcompare : d.compare e = .eq := by rw [compare_eq, compare_eq_iff_eq.2 h]
  unfold compare at hcompare
  simp only [Ordering.then_eq_eq, compare_eq_iff_eq] at hcompare
  exact Day.ext hcompare.1 hcompare.2.1 hcompare.2.2

/-! ### One day on, one day back -/

/-- The first day of all. -/
def first : Day := ⟨firstYear, 1, 1, by decide⟩

/-- The last day of all. -/
def last : Day := ⟨lastYear, 12, 31, by decide⟩

theorem next_last : last.next = last := by decide

theorem previous_first : first.previous = first := by decide

/-- What the next day is: another day of the month, the first of another month, New Year's Day, or
the last day of all again. -/
theorem next_cases (d : Day) :
    (∃ h, d.next = ⟨d.year, d.month, d.day + 1, h⟩) ∨
    (d.day = monthLength d.year d.month ∧ ∃ h, d.next = ⟨d.year, d.month + 1, 1, h⟩) ∨
    (d.month = 12 ∧ d.day = 31 ∧ ∃ h, d.next = ⟨d.year + 1, 1, 1, h⟩) ∨
    (d = last ∧ d.next = d) := by
  obtain ⟨hy₁, hy₂, hm₁, hm₂, hd₁, hd₂⟩ := d.isDay
  by_cases hday : IsDay d.year d.month (d.day + 1)
  · exact .inl ⟨hday, by simp [next, ofParts?, hday]⟩
  have hd : d.day = monthLength d.year d.month := by
    unfold IsDay at hday
    omega
  by_cases hmonth : IsDay d.year (d.month + 1) 1
  · exact .inr (.inl ⟨hd, hmonth, by simp [next, ofParts?, hday, hmonth]⟩)
  have hm : d.month = 12 := by
    have := monthLength_ge d.year (d.month + 1)
    unfold IsDay at hmonth
    omega
  have hd' : d.day = 31 := by
    rw [hd, hm]
    rfl
  by_cases hyear : IsDay (d.year + 1) 1 1
  · exact .inr (.inr (.inl ⟨hm, hd', hyear, by simp [next, ofParts?, hday, hmonth, hyear]⟩))
  have hy : d.year = lastYear := by
    have := monthLength_ge (d.year + 1) 1
    unfold IsDay at hyear
    omega
  exact .inr (.inr (.inr ⟨Day.ext hy hm hd', by simp [next, ofParts?, hday, hmonth, hyear]⟩))

/-- What the day before is: another day of the month, the last of another month, New Year's Eve, or
the first day of all again. -/
theorem previous_cases (d : Day) :
    (2 ≤ d.day ∧ ∃ h, d.previous = ⟨d.year, d.month, d.day - 1, h⟩) ∨
    (d.day = 1 ∧ 2 ≤ d.month ∧
      ∃ h, d.previous = ⟨d.year, d.month - 1, monthLength d.year (d.month - 1), h⟩) ∨
    (d.month = 1 ∧ d.day = 1 ∧ ∃ h, d.previous = ⟨d.year - 1, 12, 31, h⟩) ∨
    (d = first ∧ d.previous = d) := by
  obtain ⟨hy₁, hy₂, hm₁, hm₂, hd₁, hd₂⟩ := d.isDay
  by_cases hday : IsDay d.year d.month (d.day - 1)
  · refine .inl ⟨?_, hday, by simp [previous, ofParts?, hday]⟩
    unfold IsDay at hday
    omega
  have hd : d.day = 1 := by
    unfold IsDay at hday
    omega
  have hlength := monthLength_ge d.year (d.month - 1)
  by_cases hmonth : IsDay d.year (d.month - 1) (monthLength d.year (d.month - 1))
  · refine .inr (.inl ⟨hd, ?_, hmonth, by simp [previous, ofParts?, hday, hmonth]⟩)
    unfold IsDay at hmonth
    omega
  have hm : d.month = 1 := by
    unfold IsDay at hmonth
    omega
  by_cases hyear : IsDay (d.year - 1) 12 31
  · exact .inr (.inr (.inl ⟨hm, hd, hyear, by simp [previous, ofParts?, hday, hmonth, hyear]⟩))
  have hy : d.year = firstYear := by
    have hdecember : monthLength (d.year - 1) 12 = 31 := rfl
    unfold IsDay at hyear
    omega
  exact .inr (.inr (.inr ⟨Day.ext hy hm hd, by simp [previous, ofParts?, hday, hmonth, hyear]⟩))

/-- The next day has the next number. -/
theorem number_next {d : Day} (h : d ≠ last) : d.next.number = d.number + 1 := by
  obtain ⟨_, hnext⟩ | ⟨hd, _, hnext⟩ | ⟨hm, hd, _, hnext⟩ | ⟨hlast, -⟩ := next_cases d
  · rw [hnext]
    simp only [number]
    omega
  · have hmonth := daysBeforeMonth_succ d.year d.isDay.2.2.1
    rw [hnext]
    simp only [number]
    omega
  · have hyear := daysBeforeYear_succ d.year
    have hdecember := daysBeforeMonth_december d.year
    rw [hnext]
    simp only [number, hm, hd, daysBeforeMonth_january]
    omega
  · exact absurd hlast h

example : (⟨1900, 2, 28, by decide⟩ : Day).next = ⟨1900, 3, 1, by decide⟩ := by decide

/-- The day before has the number before. -/
theorem number_previous {d : Day} (h : d ≠ first) : d.previous.number = d.number - 1 := by
  obtain ⟨hd, _, hprevious⟩ | ⟨hd, hm, _, hprevious⟩ | ⟨hm, hd, _, hprevious⟩ | ⟨hfirst, -⟩ :=
    previous_cases d
  · rw [hprevious]
    simp only [number]
    omega
  · have hmonth := daysBeforeMonth_succ d.year (show 1 ≤ d.month - 1 by omega)
    rw [show d.month - 1 + 1 = d.month by omega] at hmonth
    rw [hprevious]
    simp only [number]
    omega
  · have hyear := daysBeforeYear_succ (d.year - 1)
    rw [Int.sub_add_cancel] at hyear
    have hdecember := daysBeforeMonth_december (d.year - 1)
    rw [hprevious]
    simp only [number, hm, hd, daysBeforeMonth_january]
    omega
  · exact absurd hfirst h

example : (⟨0, 3, 1, by decide⟩ : Day).previous = ⟨0, 2, 29, by decide⟩ := by decide

/-! ### The range of the numbers -/

/-- What lies in a year of the range is numbered from the first day to the last. -/
theorem number_bounds {year : Int} {k : Nat} (h₁ : firstYear ≤ year) (h₂ : year ≤ lastYear)
    (hk : k < yearLength year) :
    first.number ≤ daysBeforeYear year + k - daysBefore1970 ∧
      daysBeforeYear year + k - daysBefore1970 ≤ last.number := by
  have hlow : daysBeforeYear firstYear ≤ daysBeforeYear year := daysBeforeYear_mono h₁
  have hhigh : daysBeforeYear (year + 1) ≤ daysBeforeYear (lastYear + 1) :=
    daysBeforeYear_mono (Int.add_le_add_right h₂ 1)
  have hfirst : first.number = daysBeforeYear firstYear - daysBefore1970 := rfl
  have hlast : last.number = daysBeforeYear (lastYear + 1) - 1 - daysBefore1970 := rfl
  rw [daysBeforeYear_succ] at hhigh
  omega

theorem first_number_le (d : Day) : first.number ≤ d.number := by
  have hone := d.one_le_ordinal
  have hlength := d.ordinal_le_yearLength
  rw [number_eq d]
  exact (number_bounds d.isDay.1 d.isDay.2.1 (by omega)).1

theorem number_le_last (d : Day) : d.number ≤ last.number := by
  have hone := d.one_le_ordinal
  have hlength := d.ordinal_le_yearLength
  rw [number_eq d]
  exact (number_bounds d.isDay.1 d.isDay.2.1 (by omega)).2

/-- Every number from that of the first day to that of the last is the number of a day: turn the
leaves of the calendar, from the first day on. -/
theorem exists_number_eq {n : Int} (h₁ : first.number ≤ n) (h₂ : n ≤ last.number) :
    ∃ d : Day, d.number = n := by
  induction n, h₁ using Int.leInduction with
  | base => exact ⟨first, rfl⟩
  | succ n h₁ ih =>
    obtain ⟨d, hd⟩ := ih (by omega)
    have hne : d ≠ last := by
      rintro rfl
      omega
    exact ⟨d.next, by rw [number_next hne, hd]⟩

end Day

/-! ### From numbers back to days -/

/-- Before a year lie the cycles of 400, 100 and 4 years and the single years, each with its own
number of days: a cycle has its leap years within it. -/
theorem daysBeforeYear_cycles {century cycle year : Int} (era : Int)
    (hcentury : 0 ≤ century ∧ century ≤ 3) (hcycle : 0 ≤ cycle ∧ cycle ≤ 24)
    (hyear : 0 ≤ year ∧ year ≤ 3) :
    daysBeforeYear (400 * era + 100 * century + 4 * cycle + year + 1) =
      146097 * era + 36524 * century + 1461 * cycle + 365 * year := by
  have h₄ : (400 * era + 100 * century + 4 * cycle + year) / 4 =
      100 * era + 25 * century + cycle := by omega
  have h₁₀₀ : (400 * era + 100 * century + 4 * cycle + year) / 100 = 4 * era + century := by omega
  have h₄₀₀ : (400 * era + 100 * century + 4 * cycle + year) / 400 = era := by omega
  rw [daysBeforeYear, Int.add_sub_cancel, h₄, h₁₀₀, h₄₀₀]
  omega

/-- The cycles cut off whole years, and what is left is less than a year. -/
theorem yearAndRest_spec (n : Int) :
    daysBeforeYear (yearAndRest n).1 + (yearAndRest n).2 = n ∧
      (yearAndRest n).2 < yearLength (yearAndRest n).1 := by
  simp only [yearAndRest]
  generalize hera : n / 146097 = era
  generalize hcentury : min (n % 146097 / 36524) 3 = century
  generalize hcycle : (n % 146097 - 36524 * century) / 1461 = cycle
  generalize hrest : (n % 146097 - 36524 * century) % 1461 = rest
  generalize hyear : min (rest / 365) 3 = year
  have hcentury' : 0 ≤ century ∧ century ≤ 3 := by omega
  have hcycle' : 0 ≤ cycle ∧ cycle ≤ 24 := by omega
  have hyear' : 0 ≤ year ∧ year ≤ 3 := by omega
  have hrest' : 0 ≤ rest - 365 * year := by omega
  have hn : n = 146097 * era + 36524 * century + 1461 * cycle + rest := by omega
  constructor
  · rw [daysBeforeYear_cycles era hcentury' hcycle' hyear']
    omega
  · -- a rest of 365 days is left in the last year of a cycle only, which is a leap year
    unfold yearLength
    split
    · rename_i hleap
      rw [isLeapYear_iff] at hleap
      omega
    · rename_i hleap
      rw [isLeapYear_iff] at hleap
      omega

/-- The months that have begun are counted: those up to the month that has not ended. -/
theorem monthAt_eq {year : Int} {month k : Nat} (h₁ : 1 ≤ month) (h₂ : month ≤ 12)
    (hbegun : daysBeforeMonth year month ≤ k)
    (hends : k < daysBeforeMonth year month + monthLength year month) :
    monthAt year k = month := by
  have hsplit : List.range' 2 11 =
      List.range' 2 (month - 1) ++ List.range' (month + 1) (12 - month) := by
    rw [show month + 1 = 2 + 1 * (month - 1) by omega, List.range'_append]
    congr 1
    omega
  have hbefore : ∀ m ∈ List.range' 2 (month - 1), decide (daysBeforeMonth year m ≤ k) = true := by
    intro m hm
    rw [List.mem_range'_1] at hm
    have := daysBeforeMonth_mono year (show m ≤ month by omega)
    simp only [decide_eq_true_eq]
    omega
  have hafter : ∀ m ∈ List.range' (month + 1) (12 - month),
      ¬ decide (daysBeforeMonth year m ≤ k) = true := by
    intro m hm
    rw [List.mem_range'_1] at hm
    have := daysBeforeMonth_add_monthLength_le year h₁ (show month < m by omega)
    simp only [decide_eq_true_eq]
    omega
  rw [monthAt, hsplit, List.countP_append, List.countP_eq_length.2 hbefore,
    List.countP_eq_zero.2 hafter, List.length_range']
  omega

namespace Day

theorem ofNumber?_number (d : Day) : ofNumber? d.number = some d := by
  obtain ⟨-, -, hm₁, hm₂, hd₁, hd₂⟩ := d.isDay
  have hone := d.one_le_ordinal
  have hlength := d.ordinal_le_yearLength
  have hnumber := d.number_eq
  obtain ⟨hsum, hlt⟩ := yearAndRest_spec (d.number + daysBefore1970)
  obtain ⟨hyear, hrest⟩ := year_unique hlt
    (show d.ordinal - 1 < yearLength d.year by omega) (by omega)
  have hmonth : monthAt d.year (d.ordinal - 1) = d.month :=
    monthAt_eq hm₁ hm₂ (by unfold ordinal; omega) (by unfold ordinal; omega)
  have hday : d.ordinal - 1 - daysBeforeMonth d.year d.month + 1 = d.day := by
    unfold ordinal
    omega
  simp only [ofNumber?, hyear, hrest, hmonth, hday, ofParts?_parts]

/-- **From numbers back to days**: `ofNumber?` gives the day that has the number, and gives none if
no day has it. -/
theorem ofNumber?_eq_some_iff {n : Int} {d : Day} : ofNumber? n = some d ↔ d.number = n := by
  constructor
  · intro h
    obtain ⟨hsum, hlt⟩ := yearAndRest_spec (n + daysBefore1970)
    have hyear : d.year = (yearAndRest (n + daysBefore1970)).1 := (ofParts?_eq_some_iff.1 h).1
    rw [← hyear] at hsum hlt
    -- the year of the range puts the number in its own, where a day has it
    obtain ⟨h₁, h₂⟩ := number_bounds d.isDay.1 d.isDay.2.1 hlt
    obtain ⟨e, he⟩ := exists_number_eq (n := n) (by omega) (by omega)
    rw [← he, ofNumber?_number, Option.some_inj] at h
    rw [← h, he]
  · rintro rfl
    exact ofNumber?_number d

end Day

end JournalSite
