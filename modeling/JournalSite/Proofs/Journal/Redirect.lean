import JournalSite.Journal.Redirect
import JournalSite.Proofs.Calendar.Counting
import JournalSite.Proofs.Journal.Selection

/-!
# The redirect lands on the draft of the day

The start page sends the visitor to the address of the day that the clock shows. The
clock is given in seconds since 1970 and the address in writing; the journal page
reads the day back from the fragment and asks how its entry stands today. Between
the seconds and the entry lie the numbering of the days, the written date, the
reader of fragments, the selection and the boundary around the entry.

**`redirect_lands_on_draft`**: whatever the clock, within the range of the days, the
page shows the day that the clock shows, its entry is built, and today it is a draft.
-/

namespace JournalSite

/-- A clock that is given seconds and a nanosecond shows them: its day is the whole days in the
seconds, its second the seconds that are left, and its nanosecond the one it was given. -/
theorem ofUnixTime?_eq_some_iff {seconds : Int} {nanosecond : Nat} {now : Clock} :
    Clock.ofUnixTime? seconds nanosecond = some now ↔
      now.day.number = seconds / 86400 ∧ (now.second : Int) = seconds % 86400 ∧
        now.nanosecond = nanosecond := by
  unfold Clock.ofUnixTime? secondsPerDay
  constructor
  · intro h
    split at h
    · cases h
    · rename_i d hd
      simp only at h
      split at h
      · cases h
        exact ⟨Day.ofNumber?_eq_some_iff.1 hd, by simp only; omega, rfl⟩
      · cases h
  · obtain ⟨d, second, _, hlt, hadmits⟩ := now
    rintro ⟨hday, hsecond, rfl⟩
    have hrest : (seconds % 86400).toNat = second := by
      simp only at hsecond
      omega
    rw [Day.ofNumber?_eq_some_iff.2 hday]
    simp only [hrest, dif_pos hadmits]

/-- Seconds within a day, and a nanosecond that they admit, are shown by a clock. -/
theorem exists_ofUnixTime?_eq_some {seconds : Int} {nanosecond : Nat} {d : Day}
    (hday : d.number = seconds / 86400)
    (hnano : nanosecond < 1000000000 ∨ nanosecond < 2000000000 ∧ seconds % 60 = 59) :
    ∃ now, Clock.ofUnixTime? seconds nanosecond = some now ∧ now.day = d := by
  have hadmits : AdmitsNanosecond (seconds % 86400).toNat nanosecond := by
    unfold AdmitsNanosecond
    omega
  refine ⟨⟨d, (seconds % 86400).toNat, nanosecond, by omega, hadmits⟩, ?_, rfl⟩
  exact ofUnixTime?_eq_some_iff.2 ⟨hday, by simp only; omega, rfl⟩

/-- The redirect makes one call, for the day of the clock. -/
theorem redirectCalls_eq (now : Clock) :
    redirectCalls now =
      [("/journal" ++ dailyHash now.day, { NavigateOptions.standard with replace := true })] := rfl

/-- **The redirect lands on the draft of the day.** Let the clock show `seconds` since 1970-01-01,
on a day of the range, and a nanosecond that the second admits. The redirect makes a single call: it
goes to the journal with a fragment, in place of the current address, and leaves the other options
as they are. The page selects from the fragment the day `d` that lies as many days after 1970-01-01
as there are whole days in the seconds, before it if they are negative. All parts of the page show
`d`: on that day as a draft, which a new boundary builds and stays normal, before it as pending and
after it as published. What is built reads as the entry of `d`, under the heading of the day. -/
theorem redirect_lands_on_draft (seconds : Int) (nanosecond : Nat)
    (hday : Day.first.number ≤ epochDay.number + seconds / 86400 ∧
      epochDay.number + seconds / 86400 ≤ Day.last.number)
    (hnano : nanosecond < 1000000000 ∨ nanosecond < 2000000000 ∧ seconds % 60 = 59) :
    ∃ (now : Clock) (d : Day) (hash : String) (s : DaySelection),
      Clock.ofUnixTime? seconds nanosecond = some now ∧
      d.number - epochDay.number = seconds / 86400 ∧
      redirectCalls now =
        [("/journal" ++ hash, { NavigateOptions.standard with replace := true })] ∧
      selectDay (m := Id) true hash = s ∧ s = .hash (.ok d) ∧
      s.shownDay = some d ∧ s.status d = "draft" ∧ s.entryDay = .ok (some d) ∧
      Boundary.normal.attempt (m := Id) (renderEntry s) = (.rendered (dayEntry d), .normal) ∧
      ReadsAsEntry (dayEntry d).render d ∧
      ∀ today : Day, (today.number < d.number → s.status today = "pending") ∧
        (d.number < today.number → s.status today = "published") := by
  rw [number_epochDay, Int.zero_add] at hday
  obtain ⟨d, hd⟩ := Day.exists_number_eq hday.1 hday.2
  obtain ⟨now, hnow, rfl⟩ := exists_ofUnixTime?_eq_some hd hnano
  have hselect : selectDay (m := Id) true (dailyHash now.day) = .hash (.ok now.day) :=
    congrArg DaySelection.hash (parseDailyHash_dailyHash now.day)
  have hshows (today : Day) := showsDay_ok now.day today
  refine ⟨now, now.day, dailyHash now.day, _, hnow, ?_, redirectCalls_eq now, hselect, rfl,
    (hshows now.day).shownDay, ?_, (hshows now.day).entryDay, rfl, (hshows now.day).seen,
    fun today => ⟨?_, ?_⟩⟩
  · rw [number_epochDay, Int.sub_zero, hd]
  · rw [(hshows now.day).status, entryStatus_eq]
    simp
  · intro h
    rw [(hshows today).status, entryStatus_eq, if_neg (by omega), if_neg (by omega)]
  · intro h
    rw [(hshows today).status, entryStatus_eq, if_pos h]

/-- In the leap second before 1970 the redirect still lands on 1969-12-31. -/
theorem redirect_lands_on_draft_leap_second :
    (Day.first.number ≤ epochDay.number + (-1) / 86400 ∧
      epochDay.number + (-1) / 86400 ≤ Day.last.number) ∧
    (1999999999 < 1000000000 ∨ 1999999999 < 2000000000 ∧ (-1 : Int) % 60 = 59) ∧
    ∃ (now : Clock) (d : Day) (hash : String) (s : DaySelection),
      Clock.ofUnixTime? (-1) 1999999999 = some now ∧
      d.number - epochDay.number = -1 / 86400 ∧
      redirectCalls now =
        [("/journal" ++ hash, { NavigateOptions.standard with replace := true })] ∧
      selectDay (m := Id) true hash = s ∧ s = .hash (.ok d) ∧
      s.shownDay = some d ∧ s.status d = "draft" ∧ s.entryDay = .ok (some d) ∧
      Boundary.normal.attempt (m := Id) (renderEntry s) = (.rendered (dayEntry d), .normal) ∧
      ReadsAsEntry (dayEntry d).render d ∧
      ∀ today : Day, (today.number < d.number → s.status today = "pending") ∧
        (d.number < today.number → s.status today = "published") :=
  ⟨by decide, by decide, redirect_lands_on_draft (-1) 1999999999 (by decide) (by decide)⟩

end JournalSite
