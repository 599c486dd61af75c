import JournalSite.Proofs.Calendar.Counting
import JournalSite.Proofs.Journal.DailyHash

/-!
# What a heading says

The entry of a day is headed by its weekday, month, day and year, and its address has
year, month and day in digits. The two are written by different rules. Which headings
say what is said here without a writer (`HeadingText`): a name of a weekday, a comma,
the name of a month and a numeral, another comma and a year, with its sign if it has
one. The names are those of two tables (`weekdayNames`, `monthNames`). A heading can be
read in one way only (`HeadingText.unique`), and so can a date.

**`heading_agrees_with_target`**: what the heading of a day says, read in this way, is
what its address says, and the weekday is the one that the count of the days from
Thursday, 1970-01-01, comes to. So the heading of the next day has the weekday that
follows, and no two days have one heading.
-/

namespace JournalSite

open Text

/-! ### The grammar of headings -/

/-- The weekdays and their names. -/
def weekdayNames : List (Weekday × String) :=
  [(.monday, "Monday"), (.tuesday, "Tuesday"), (.wednesday, "Wednesday"), (.thursday, "Thursday"),
    (.friday, "Friday"), (.saturday, "Saturday"), (.sunday, "Sunday")]

/-- The months by their numbers, and their names. -/
def monthNames : List (Nat × String) :=
  [(1, "January"), (2, "February"), (3, "March"), (4, "April"), (5, "May"), (6, "June"),
    (7, "July"), (8, "August"), (9, "September"), (10, "October"), (11, "November"),
    (12, "December")]

/-- **The grammar of headings**: a weekday, a month with a day, and a year. The three numbers need
not name a day, nor one that falls on the weekday. -/
inductive HeadingText : List Char → Weekday → Int → Nat → Nat → Prop where
  /-- The four parts and what stands between them. -/
  | parts {w : Weekday} {m d : Nat} {weekday month : String} {ds ys : List Char} {y : Int} :
      (w, weekday) ∈ weekdayNames → (m, month) ∈ monthNames → IsNumeral ds d → YearText ys y →
      HeadingText (weekday.toList ++ ',' :: ' ' ::
        (month.toList ++ ' ' :: (ds ++ ',' :: ' ' :: ys))) w y m d

/-- A heading says that its day falls on `w`. -/
def HeadingWeekday (heading : String) (w : Weekday) : Prop :=
  ∃ y m d, HeadingText heading.toList w y m d

theorem comma_not_mem_of_mem_weekdayNames : ∀ p ∈ weekdayNames, ',' ∉ p.2.toList := by decide

/-- A weekday is known by its name. -/
theorem eq_of_mem_weekdayNames :
    ∀ p ∈ weekdayNames, ∀ q ∈ weekdayNames, p.2 = q.2 → p.1 = q.1 := by decide

theorem space_not_mem_of_mem_monthNames : ∀ p ∈ monthNames, ' ' ∉ p.2.toList := by decide

/-- A month is known by its name. -/
theorem eq_of_mem_monthNames : ∀ p ∈ monthNames, ∀ q ∈ monthNames, p.2 = q.2 → p.1 = q.1 := by
  decide

theorem comma_not_mem_of_isNumeral {ds : List Char} {n : Nat} (h : IsNumeral ds n) : ',' ∉ ds := by
  intro hmem
  exact absurd (h.isDigit ',' hmem) (by decide)

/-- **One reading**: a text is the heading of one weekday, year, month and day only. The weekday
ends at the first comma, the month at the space behind it and the day at the other comma. -/
theorem HeadingText.unique {cs : List Char} {w w' : Weekday} {y y' : Int} {m m' d d' : Nat}
    (h : HeadingText cs w y m d) (h' : HeadingText cs w' y' m' d') :
    w = w' ∧ y = y' ∧ m = m' ∧ d = d' := by
  obtain ⟨hweekday, hmonth, hds, hys⟩ := h
  rename_i weekday month ds ys
  generalize hcs : weekday.toList ++ ',' :: ' ' ::
    (month.toList ++ ' ' :: (ds ++ ',' :: ' ' :: ys)) = cs at h'
  obtain ⟨hweekday', hmonth', hds', hys'⟩ := h'
  obtain ⟨hweekdays, hrest⟩ :=
    append_cons_unique (comma_not_mem_of_mem_weekdayNames _ hweekday)
      (comma_not_mem_of_mem_weekdayNames _ hweekday') hcs
  obtain ⟨hmonths, hrest⟩ := append_cons_unique (space_not_mem_of_mem_monthNames _ hmonth)
    (space_not_mem_of_mem_monthNames _ hmonth') (List.cons.inj hrest).2
  obtain ⟨rfl, hyear⟩ := append_cons_unique (comma_not_mem_of_isNumeral hds)
    (comma_not_mem_of_isNumeral hds') hrest
  obtain rfl := (List.cons.inj hyear).2
  refine ⟨?_, hys.unique hys', ?_, hds.value.symm.trans hds'.value⟩
  · exact eq_of_mem_weekdayNames _ hweekday _ hweekday' (String.toList_inj.1 hweekdays)
  · exact eq_of_mem_monthNames _ hmonth _ hmonth' (String.toList_inj.1 hmonths)

/-! ### Headings as they are written -/

theorem isNumeral_decimal (n : Nat) : IsNumeral (decimal n).toList n := by
  rw [decimal, String.toList_ofList]
  exact isNumeral_toDigits n

theorem Weekday.mem_weekdayNames (w : Weekday) : (w, w.name) ∈ weekdayNames := by
  cases w <;> decide

theorem mem_monthNames {m : Nat} (hfirst : 1 ≤ m) (hlast : m ≤ 12) :
    (m, monthName m) ∈ monthNames := by
  interval_cases m <;> decide

/-- The heading of a day is a heading by the grammar, and of that day. -/
theorem headingText_heading (d : Day) :
    HeadingText d.heading.toList d.weekday d.year d.month d.day := by
  obtain ⟨-, -, hfirst, hlast, -, -⟩ := d.isDay
  have hparts := HeadingText.parts d.weekday.mem_weekdayNames (mem_monthNames hfirst hlast)
    (isNumeral_decimal d.day) (yearText_yearChars d.year)
  have hwritten : d.heading.toList = d.weekday.name.toList ++ ',' :: ' ' ::
      ((monthName d.month).toList ++ ' ' ::
        ((decimal d.day).toList ++ ',' :: ' ' :: yearChars d.year)) := by
    simp [Day.heading]
  rwa [hwritten]

theorem headingText_heading_iff {d : Day} {w : Weekday} {y : Int} {m n : Nat} :
    HeadingText d.heading.toList w y m n ↔
      w = d.weekday ∧ y = d.year ∧ m = d.month ∧ n = d.day := by
  constructor
  · intro h
    exact h.unique (headingText_heading d)
  · rintro ⟨rfl, rfl, rfl, rfl⟩
    exact headingText_heading d

theorem headingWeekday_heading_iff {d : Day} {w : Weekday} :
    HeadingWeekday d.heading w ↔ w = d.weekday := by
  constructor
  · rintro ⟨y, m, n, h⟩
    exact (headingText_heading_iff.1 h).1
  · rintro rfl
    exact ⟨_, _, _, headingText_heading d⟩

theorem dateText_dateChars_iff {d : Day} {y : Int} {m n : Nat} :
    DateText d.dateChars y m n ↔ y = d.year ∧ m = d.month ∧ n = d.day := by
  constructor
  · intro h
    exact h.unique (dateText_dateChars d)
  · rintro ⟨rfl, rfl, rfl⟩
    exact dateText_dateChars d

/-- No two days have one heading. -/
theorem heading_injective : Function.Injective Day.heading := by
  intro d e h
  have hread := headingText_heading d
  rw [h] at hread
  obtain ⟨-, hy, hm, hd⟩ := hread.unique (headingText_heading e)
  exact Day.ext hy hm hd

/-- The links of the page of a day lead to a next day that falls on the weekday that follows, or to
the day itself if it is the last. -/
theorem weekday_adjacentDays_next (d : Day) :
    (adjacentDays d).2.weekday = if d = Day.last then d.weekday else d.weekday.next := by
  rw [adjacentDays]
  split_ifs with h
  · rw [h, Day.next_last]
  · exact Day.weekday_next h

/-- A year stands in the heading of a day and in its address in the same characters. -/
theorem yearChars_suffix_heading (d : Day) : yearChars d.year <:+ d.heading.toList :=
  ⟨(d.weekday.name ++ ", " ++ monthName d.month ++ " " ++ decimal d.day ++ ", ").toList,
    by simp [Day.heading]⟩

/-- **The heading and the address of a day agree.** Let `date` be what follows `/journal#daily/` in
the address of `d`. The heading says a weekday, a year, a month and a day exactly if `date` says
the same year, month and day, which are those of `d`, and the weekday is the one that `d` is counted
to from Thursday, 1970-01-01. The year stands in both in the same characters. The next day is headed
by the weekday that follows, unless `d` is the last day of all, whose next day has the same heading.
No two days have one heading. -/
theorem heading_agrees_with_target :
    (∀ d : Day, ∃ (date : List Char) (n : Int),
      journalTarget d = "/journal#daily/" ++ String.ofList date ∧ Counted d n ∧
      (∀ w y m k, HeadingText d.heading.toList w y m k ↔
        w = Weekday.fromThursday n ∧ DateText date y m k) ∧
      (∀ y m k, DateText date y m k ↔ y = d.year ∧ m = d.month ∧ k = d.day) ∧
      (∃ ys, YearText ys d.year ∧ ys <:+ d.heading.toList ∧ ys ++ ['-'] <+: date) ∧
      (∀ w, HeadingWeekday (adjacentDays d).2.heading w ↔
        w = if d = Day.last then Weekday.fromThursday n else (Weekday.fromThursday n).next)) ∧
    (adjacentDays Day.last).2.heading = Day.last.heading ∧
    Function.Injective Day.heading := by
  refine ⟨fun d => ?_, congrArg Day.heading Day.next_last, heading_injective⟩
  refine ⟨d.dateChars, d.number, ?_, counted_iff.2 rfl, fun w y m k => ?_, fun y m k => ?_, ?_,
    fun w => ?_⟩
  · rw [journalTarget, dailyHash, journalPath, ← String.toList_inj]
    simp [dailyMark]
  · rw [headingText_heading_iff, dateText_dateChars_iff, d.weekday_eq]
  · exact dateText_dateChars_iff
  · refine ⟨yearChars d.year, yearText_yearChars d.year, yearChars_suffix_heading d, ?_⟩
    exact ⟨padded 2 d.month ++ '-' :: padded 2 d.day, by simp [Day.dateChars]⟩
  · rw [headingWeekday_heading_iff, weekday_adjacentDays_next, d.weekday_eq]

end JournalSite
