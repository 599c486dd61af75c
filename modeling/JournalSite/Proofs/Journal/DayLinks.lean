import JournalSite.Proofs.Journal.Selection

/-!
# Walking from day to day

The page of a day links to the days before and after it. A press of a link goes to
the address that the link was given, and the page reads the day it is to show next
from the fragment of that address, so every press goes through the written date.

A walk is any number of presses, one after the other. Every press of it arrives at a
day, and the walk moves the number of the day by one for each press, except that it
stays at the first and the last day of all (**`followLinks_walk`**). What one press
does is said by `DayLink.press_eq_ok` and `DayLink.number_day`.
-/

namespace JournalSite

/-- The part of an address of the journal that follows the path. -/
def fragmentOf (target : String) : String :=
  String.ofList (target.toList.drop journalPath.toList.length)

theorem fragmentOf_journalTarget (d : Day) : fragmentOf (journalTarget d) = dailyHash d := by
  rw [fragmentOf, journalTarget, String.toList_append, List.drop_left, String.ofList_toList]

/-- The links of a day. -/
inductive DayLink where
  /-- The link to the day before. -/
  | previous
  /-- The link to the day after. -/
  | next
  deriving DecidableEq, Repr

namespace DayLink

/-- The day that a link of the page of `d` is for. -/
def day (link : DayLink) (d : Day) : Day :=
  match link with
  | previous => (adjacentDays d).1
  | next => (adjacentDays d).2

/-- Presses a link of the page of `d`: the day that the fragment of the link's address names. -/
def press (d : Day) (link : DayLink) : Except DailyHashError Day :=
  parseDailyHash (fragmentOf (journalTarget (link.day d)))

/-- What a press does to the number of the day. -/
def move (n : Int) : DayLink → Int
  | previous => if n = Day.first.number then n else n - 1
  | next => if n = Day.last.number then n else n + 1

/-- Every press arrives at the day that the link is for. -/
theorem press_eq_ok (d : Day) (link : DayLink) : press d link = .ok (link.day d) := by
  rw [press, fragmentOf_journalTarget, parseDailyHash_dailyHash]

theorem number_day (link : DayLink) (d : Day) : (link.day d).number = move d.number link := by
  cases link with
  | previous =>
    by_cases h : d = Day.first
    · rw [h, day, adjacentDays, Day.previous_first, move, if_pos rfl]
    · rw [day, adjacentDays, Day.number_previous h, move,
        if_neg fun hn => h (Day.number_injective hn)]
  | next =>
    by_cases h : d = Day.last
    · rw [h, day, adjacentDays, Day.next_last, move, if_pos rfl]
    · rw [day, adjacentDays, Day.number_next h, move,
        if_neg fun hn => h (Day.number_injective hn)]

theorem move_previous_next {n : Int} (h : n ≠ Day.first.number) (hle : n ≤ Day.last.number) :
    move (move n previous) next = n := by
  simp only [move, if_neg h]
  rw [if_neg (by omega)]
  omega

theorem move_next_previous {n : Int} (h : n ≠ Day.last.number) (hle : Day.first.number ≤ n) :
    move (move n next) previous = n := by
  simp only [move, if_neg h]
  rw [if_neg (by omega)]
  omega

end DayLink

/-- Presses links one after the other, each on the page of the day that the press before it has
arrived at. -/
def followLinks (d : Day) (links : List DayLink) : Except DailyHashError Day :=
  links.foldlM DayLink.press d

theorem followLinks_cons (d : Day) (link : DayLink) (links : List DayLink) :
    followLinks d (link :: links) = followLinks (link.day d) links := by
  rw [followLinks, List.foldlM_cons, DayLink.press_eq_ok]
  rfl

/-- Every walk arrives, at the day whose number the moves lead to. -/
theorem exists_followLinks_eq_ok (d : Day) (links : List DayLink) :
    ∃ reached, followLinks d links = .ok reached ∧
      reached.number = links.foldl DayLink.move d.number := by
  induction links generalizing d with
  | nil => exact ⟨d, rfl, rfl⟩
  | cons link links ih =>
    obtain ⟨reached, hreached, hnumber⟩ := ih (link.day d)
    refine ⟨reached, ?_, ?_⟩
    · rw [followLinks_cons, hreached]
    · rw [hnumber, DayLink.number_day, List.foldl_cons]

/-- A walk whose moves lead back to the number they start from arrives at the day it starts from. -/
theorem followLinks_eq_self {d : Day} {links : List DayLink}
    (h : links.foldl DayLink.move d.number = d.number) : followLinks d links = .ok d := by
  obtain ⟨reached, hreached, hnumber⟩ := exists_followLinks_eq_ok d links
  rw [hreached, Day.number_injective (hnumber.trans h)]

/-- **Walking the days.** The numbers go through the days of the calendar in their order, one after
the other: they are those from that of the first day to that of the last, each of one day, and they
compare as the days do. A walk of any length from any day arrives at each press, and ends at the day
whose number the moves lead to; the entry there stands to the day the walk began at as the numbers
do. One press undoes the other, but for a press that could not move. -/
theorem followLinks_walk :
    ((∀ n : Int, (∃ d : Day, d.number = n) ↔ Day.first.number ≤ n ∧ n ≤ Day.last.number) ∧
      Function.Injective Day.number ∧
      ∀ d e : Day, d.compare e = Ord.compare d.number e.number) ∧
    (∀ (d : Day) (links : List DayLink), ∃ reached, followLinks d links = .ok reached ∧
      reached.number = links.foldl DayLink.move d.number ∧
      entryStatus reached d =
        if reached.number < d.number then "published"
        else if reached.number = d.number then "draft" else "pending") ∧
    ∀ d : Day, (d ≠ Day.first → followLinks d [.previous, .next] = .ok d) ∧
      (d ≠ Day.last → followLinks d [.next, .previous] = .ok d) := by
  refine ⟨⟨fun n => ⟨?_, fun h => Day.exists_number_eq h.1 h.2⟩, Day.number_injective,
    Day.compare_eq⟩, fun d links => ?_, fun d => ⟨fun hd => ?_, fun hd => ?_⟩⟩
  · rintro ⟨d, rfl⟩
    exact ⟨d.first_number_le, d.number_le_last⟩
  · obtain ⟨reached, hreached, hnumber⟩ := exists_followLinks_eq_ok d links
    exact ⟨reached, hreached, hnumber, entryStatus_eq reached d⟩
  · have hne : d.number ≠ Day.first.number := fun h => hd (Day.number_injective h)
    exact followLinks_eq_self (DayLink.move_previous_next hne d.number_le_last)
  · have hne : d.number ≠ Day.last.number := fun h => hd (Day.number_injective h)
    exact followLinks_eq_self (DayLink.move_next_previous hne d.first_number_le)

end JournalSite
