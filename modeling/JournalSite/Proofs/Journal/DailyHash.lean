import JournalSite.Journal.Address
import JournalSite.Proofs.Calendar.DateGrammar

/-!
# Fragments that name a day

A fragment names a day if it is, but for one `#` in front, the word `daily/` and
a date by the grammar of dates (`DateText`). Here are the two directions of the
passage between days and fragments: the address of every day is read back, and it
is said exactly which fragments are read at all, as what, and what becomes of the
others. Both rest on **`parseDailyHash_eq_ok_iff`**, by which the date of a
fragment decides, and on the exact reader of dates.
-/

namespace JournalSite

open Text

/-- At most one mark is taken off: what is left, with a mark or as it is, is the fragment. -/
theorem withoutMark_cases (cs : List Char) :
    cs = '#' :: withoutMark cs ∨ cs = withoutMark cs ∧ ∀ rest, cs ≠ '#' :: rest := by
  unfold withoutMark
  split
  · exact .inl rfl
  · rename_i hne
    exact .inr ⟨rfl, hne⟩

theorem dailyDate?_eq_some_iff {hash t : List Char} :
    dailyDate? hash = some t ↔ withoutMark hash = dailyMark ++ t := by
  simp only [dailyDate?]
  constructor
  · intro h
    split at h
    · rename_i hprefix
      cases h
      exact (List.prefix_iff_eq_append.1 (List.isPrefixOf_iff_prefix.1 hprefix)).symm
    · cases h
  · intro h
    rw [h, if_pos (List.isPrefixOf_iff_prefix.2 (List.prefix_append _ _)), List.drop_left]

theorem dailyDate?_eq_none_iff {hash : List Char} :
    dailyDate? hash = none ↔ ∀ t, withoutMark hash ≠ dailyMark ++ t := by
  simp only [Option.eq_none_iff_forall_ne_some, Ne, dailyDate?_eq_some_iff]

/-- A fragment about a day is read as its date is. -/
theorem parseDailyHash_of_date {hash : String} {t : List Char}
    (ht : withoutMark hash.toList = dailyMark ++ t) :
    parseDailyHash hash = (Day.ofDateChars? t).mapError (.invalidDate (String.ofList t)) := by
  rw [parseDailyHash, dailyDate?_eq_some_iff.2 ht]
  cases h : Day.ofDateChars? t with
  | error fault => simp only [h, Except.mapError]
  | ok day => simp only [h, Except.mapError]

theorem parseDailyHash_eq_ok_iff {hash : String} {t : List Char} {d : Day}
    (ht : withoutMark hash.toList = dailyMark ++ t) :
    parseDailyHash hash = .ok d ↔ DateText t d.year d.month d.day := by
  rw [parseDailyHash_of_date ht, ← Day.ofDateChars?_eq_ok_iff]
  cases Day.ofDateChars? t with
  | error fault => simp [Except.mapError]
  | ok day => simp [Except.mapError]

theorem exists_parseDailyHash_eq_error {hash : String} {t : List Char}
    (ht : withoutMark hash.toList = dailyMark ++ t)
    (hno : ∀ d : Day, ¬ DateText t d.year d.month d.day) :
    ∃ fault, parseDailyHash hash = .error (.invalidDate (String.ofList t) fault) := by
  rw [parseDailyHash_of_date ht]
  cases hday : Day.ofDateChars? t with
  | error fault => exact ⟨fault, rfl⟩
  | ok day => exact absurd (Day.ofDateChars?_eq_ok_iff.1 hday) (hno day)

/-- The fragment of a day names it. -/
theorem parseDailyHash_dailyHash (d : Day) : parseDailyHash (dailyHash d) = .ok d := by
  rw [parseDailyHash_eq_ok_iff (t := d.dateChars) (by simp [dailyHash, withoutMark])]
  exact dateText_dateChars d

/-- **Round trip**: the address of a day is the path of the journal and a fragment with its mark.
The fragment names the day, with its mark and without it. -/
theorem parseDailyHash_journalTarget (d : Day) :
    ∃ rest : String, journalTarget d = "/journal" ++ ("#" ++ rest) ∧
      parseDailyHash ("#" ++ rest) = .ok d ∧ parseDailyHash rest = .ok d := by
  refine ⟨String.ofList (dailyMark ++ d.dateChars), ?_, ?_, ?_⟩
  · rw [journalTarget, journalPath, dailyHash, ← String.toList_inj]
    simp
  · rw [parseDailyHash_eq_ok_iff (t := d.dateChars) (by simp [withoutMark])]
    exact dateText_dateChars d
  · rw [parseDailyHash_eq_ok_iff (t := d.dateChars) (by simp [withoutMark, dailyMark])]
    exact dateText_dateChars d

/-- **Exact acceptance**: let `raw` be the fragment without its mark, if it has one. If `raw` does
not begin with `daily/`, the fragment is not about a day and is kept as it was. Otherwise it names
the day `d` exactly when the text after `daily/` is a date by the grammar and its numbers are those
of `d`; if they are those of no day, or the text is no date, it is kept in the error. -/
theorem parseDailyHash_exact (hash : String) :
    ∃ raw : String, (hash = "#" ++ raw ∨ hash = raw ∧ ∀ rest, raw ≠ "#" ++ rest) ∧
      ((∀ t, raw ≠ "daily/" ++ t) → parseDailyHash hash = .error (.notDaily hash)) ∧
      ∀ t, raw = "daily/" ++ t →
        (∀ d : Day, parseDailyHash hash = .ok d ↔ DateText t.toList d.year d.month d.day) ∧
        ((∀ d : Day, ¬ DateText t.toList d.year d.month d.day) →
          ∃ fault, parseDailyHash hash = .error (.invalidDate t fault)) := by
  refine ⟨String.ofList (withoutMark hash.toList), ?_, ?_, ?_⟩
  · rcases withoutMark_cases hash.toList with h | ⟨h, hne⟩
    · left
      rw [← String.toList_inj]
      simpa using h
    · right
      rw [← h, String.ofList_toList]
      refine ⟨rfl, fun rest hrest => hne rest.toList ?_⟩
      simp [hrest]
  · intro hno
    have hnone : dailyDate? hash.toList = none := by
      rw [dailyDate?_eq_none_iff]
      intro t ht
      apply hno (String.ofList t)
      rw [ht, String.ofList_append]
      rfl
    rw [parseDailyHash, hnone]
  · intro t ht
    have ht' : withoutMark hash.toList = dailyMark ++ t.toList := by
      rw [← String.toList_ofList (l := withoutMark hash.toList), ht, String.toList_append]
      rfl
    refine ⟨fun d => parseDailyHash_eq_ok_iff ht', fun hno => ?_⟩
    simpa using exists_parseDailyHash_eq_error ht' hno

end JournalSite
