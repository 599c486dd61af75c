import JournalSite.Proofs.Journal.DailyHash
import JournalSite.Proofs.Text.Padding

/-!
# The fragments that are addresses

A day has one address, and its fragment names the day. Other fragments name it as well: the
reader of dates lets blanks stand in front of a number, and takes a number with fewer zeros in
front than the writer puts there, or with more. So there are fragments that name a day without
being its address (`unpadded_names_day`).

They are told apart by their form alone. A date is in written form (`IsWrittenDate`) if there
are no blanks in it, its month and its day have two digits, and its year has four, or a sign
and as many digits as it takes. **`names_written_iff`**: the fragments in written form that
name a day are that of its address, with its mark and without it, so one day has no two of
them.
-/

namespace JournalSite

open Text

/-! ### Dates in written form -/

/-- **Years in written form.** -/
inductive IsWrittenYear : List Char → Prop where
  /-- Four digits. -/
  | plain {ds : List Char} {n : Nat} : IsNumeral ds n → ds.length = 4 → IsWrittenYear ds
  /-- A minus sign and four digits, or more without a zero in front. They are not all zeros. -/
  | minus {ds : List Char} {n : Nat} : IsNumeral ds n → FillsWidth 4 ds → n ≠ 0 →
      IsWrittenYear ('-' :: ds)
  /-- A plus sign and five digits or more, without a zero in front. -/
  | plus {ds : List Char} {n : Nat} : IsNumeral ds n → FillsWidth 4 ds → 4 < ds.length →
      IsWrittenYear ('+' :: ds)

/-- **Dates in written form**: a year, and a month and a day of two digits each. -/
inductive IsWrittenDate : List Char → Prop where
  /-- The three pieces and the hyphens between them. -/
  | pieces {ys ms ds : List Char} {m d : Nat} : IsWrittenYear ys → IsNumeral ms m →
      ms.length = 2 → IsNumeral ds d → ds.length = 2 →
      IsWrittenDate (ys ++ '-' :: (ms ++ '-' :: ds))

/-- A numeral of just the width is written in that width. -/
theorem eq_padded_of_length_eq {width n : Nat} {ds : List Char} (hwidth : 0 < width)
    (h : IsNumeral ds n) (hlength : ds.length = width) : ds = padded width n := by
  refine (h.eq_padded_iff hwidth).2 ⟨hlength.ge, fun hlt => ?_⟩
  omega

/-- Five digits or more without a zero in front denote a number that four digits are too few for. -/
theorem le_of_fillsWidth {n : Nat} {ds : List Char} (h : IsNumeral ds n) (hfills : FillsWidth 4 ds)
    (hlength : 4 < ds.length) : 10000 ≤ n := by
  obtain ⟨c, cs, rfl, -⟩ := h.exists_eq_cons
  have hc : c ≠ '0' := by simpa using hfills.2 hlength
  calc
    10000 = 10 ^ 4 := by decide
    _ ≤ 10 ^ cs.length := Nat.pow_le_pow_right (by decide) (by simpa using hlength)
    _ ≤ n := h.pow_le_iff.2 hc

theorem isWrittenYear_yearChars (y : Int) : IsWrittenYear (yearChars y) := by
  have hn := isNumeral_padded 4 y.natAbs
  have hfills : FillsWidth 4 (padded 4 y.natAbs) := (hn.eq_padded_iff (by decide)).1 rfl
  unfold yearChars
  split_ifs with hplain hminus
  · exact .plain hn (length_padded (by decide) (by omega))
  · exact .minus hn hfills (by omega)
  · have hlength : ¬ (Nat.toDigits 10 y.natAbs).length ≤ 4 := by
      rw [Nat.length_toDigits_le_iff (by decide) (by decide)]
      omega
    refine .plus hn hfills ?_
    rw [length_padded_eq_max]
    omega

/-- A year in written form is the year it denotes as it is written. -/
theorem IsWrittenYear.exists_eq_yearChars {ys : List Char} (h : IsWrittenYear ys) :
    ∃ y, YearText ys y ∧ ys = yearChars y := by
  cases h with
  | @plain _ n hn hlength =>
    have hlt := hn.lt_pow_length
    rw [hlength] at hlt
    refine ⟨n, .plain hn hlength.le, ?_⟩
    rw [yearChars, if_pos (by omega), Int.natAbs_natCast]
    exact eq_padded_of_length_eq (by decide) hn hlength
  | @minus ds n hn hfills hne =>
    refine ⟨-n, .minus hn, ?_⟩
    rw [yearChars, if_neg (by omega), if_pos (by omega), Int.natAbs_neg, Int.natAbs_natCast]
    exact congrArg _ ((hn.eq_padded_iff (by decide)).2 hfills)
  | @plus ds n hn hfills hlength =>
    have hle := le_of_fillsWidth hn hfills hlength
    refine ⟨n, .plus hn, ?_⟩
    rw [yearChars, if_neg (by omega), if_neg (by omega), Int.natAbs_natCast]
    exact congrArg _ ((hn.eq_padded_iff (by decide)).2 hfills)

theorem isWrittenDate_dateChars (d : Day) : IsWrittenDate d.dateChars := by
  obtain ⟨-, -, -, hm, -, hd⟩ := d.isDay
  have hd' := monthLength_le d.year d.month
  exact .pieces (isWrittenYear_yearChars d.year) (isNumeral_padded 2 d.month)
    (length_padded (by decide) (by omega)) (isNumeral_padded 2 d.day)
    (length_padded (by decide) (by omega))

/-- A text that is a date of the day `d` is the date that is written of `d` exactly if it is in
written form. -/
theorem DateText.eq_dateChars_iff {t : List Char} {d : Day}
    (h : DateText t d.year d.month d.day) : t = d.dateChars ↔ IsWrittenDate t := by
  constructor
  · rintro rfl
    exact isWrittenDate_dateChars d
  · rintro ⟨hys, hms, hmslength, hds, hdslength⟩
    obtain ⟨y, hyear, hwritten⟩ := hys.exists_eq_yearChars
    -- the pieces are a reading of the date, and there is only one
    have hpieces := DateText.pieces blankText_nil hyear blankText_nil ⟨hms, hmslength.le⟩
      blankText_nil ⟨hds, hdslength.le⟩
    simp only [List.nil_append] at hpieces
    obtain ⟨rfl, rfl, rfl⟩ := hpieces.unique h
    rw [Day.dateChars, hwritten, eq_padded_of_length_eq (by decide) hms hmslength,
      eq_padded_of_length_eq (by decide) hds hdslength]

/-! ### Fragments in written form -/

/-- A fragment with its mark, which is put in front if it is missing. -/
def withMark (hash : String) : String :=
  match hash.toList with
  | '#' :: _ => hash
  | _ => "#" ++ hash

/-- A fragment about a day, with its mark or without it, whose date is in written form. -/
def IsWrittenHash (hash : String) : Prop :=
  ∃ date, withMark hash = "#daily/" ++ String.ofList date ∧ IsWrittenDate date

theorem toList_withMark (hash : String) :
    (withMark hash).toList = '#' :: withoutMark hash.toList := by
  unfold withMark
  split
  · rename_i rest hrest
    rw [hrest, withoutMark]
  · rename_i hne
    rw [String.toList_append, withoutMark.eq_2 _ hne]
    rfl

/-- A fragment is about a day, with this text in the place of the date, exactly if it is so with its
mark. -/
theorem withMark_eq_iff {hash : String} {date : List Char} :
    withMark hash = "#daily/" ++ String.ofList date ↔
      withoutMark hash.toList = dailyMark ++ date := by
  rw [← String.toList_inj, toList_withMark, String.toList_append, String.toList_ofList (l := date)]
  exact List.cons_inj_right '#'

theorem dailyHash_eq (d : Day) : dailyHash d = "#daily/" ++ String.ofList d.dateChars := by
  rw [← String.toList_inj, dailyHash, String.toList_append, String.toList_ofList,
    String.toList_ofList (l := d.dateChars)]
  rfl

theorem withMark_eq_dailyHash_iff {hash : String} {d : Day} :
    withMark hash = dailyHash d ↔ withoutMark hash.toList = dailyMark ++ d.dateChars := by
  rw [dailyHash_eq, withMark_eq_iff]

/-- A fragment in written form names a day exactly if it is the fragment of the day's address, apart
from the mark. -/
theorem parse_written_iff {hash : String} {d : Day} :
    parseDailyHash hash = .ok d ∧ IsWrittenHash hash ↔ withMark hash = dailyHash d := by
  rw [withMark_eq_dailyHash_iff]
  constructor
  · rintro ⟨hparse, date, hmark, hwritten⟩
    rw [withMark_eq_iff] at hmark
    rw [hmark, ((parseDailyHash_eq_ok_iff hmark).1 hparse).eq_dateChars_iff.2 hwritten]
  · intro h
    refine ⟨(parseDailyHash_eq_ok_iff h).2 (dateText_dateChars d), d.dateChars, ?_,
      isWrittenDate_dateChars d⟩
    rw [withMark_eq_iff, h]

/-- **One address for a day, in written form.** A fragment that names a day is the part of the day's
address behind `/journal`, with its mark or without it, exactly if it is in written form. So of two
fragments that name one day and differ by more than the mark, one is not in written form. -/
theorem names_written_iff (hash : String) (d : Day) :
    (parseDailyHash hash = .ok d ∧ IsWrittenHash hash ↔
      journalTarget d = "/journal" ++ withMark hash) ∧
    ∀ hash', parseDailyHash hash = .ok d → parseDailyHash hash' = .ok d →
      withMark hash ≠ withMark hash' → ¬ (IsWrittenHash hash ∧ IsWrittenHash hash') := by
  constructor
  · rw [parse_written_iff, journalTarget, journalPath, ← String.toList_inj, ← String.toList_inj,
      String.toList_append, String.toList_append, List.append_cancel_left_eq]
    exact eq_comm
  · rintro hash' hparse hparse' hne ⟨hwritten, hwritten'⟩
    apply hne
    rw [parse_written_iff.1 ⟨hparse, hwritten⟩, parse_written_iff.1 ⟨hparse', hwritten'⟩]

/-- Of two fragments that name one day, the one without a zero in front of the month is not in
written form, since the other one is. -/
theorem names_written_iff_padded :
    IsWrittenHash "daily/2024-03-07" ∧ ¬ IsWrittenHash "#daily/2024-3-7" := by
  have hparse : parseDailyHash "daily/2024-03-07" = .ok ⟨2024, 3, 7, by decide⟩ := by decide
  have hparse' : parseDailyHash "#daily/2024-3-7" = .ok ⟨2024, 3, 7, by decide⟩ := by decide
  obtain ⟨hiff, hother⟩ := names_written_iff "daily/2024-03-07" ⟨2024, 3, 7, by decide⟩
  have hwritten : IsWrittenHash "daily/2024-03-07" := (hiff.2 (by decide)).2
  refine ⟨hwritten, fun hwritten' => ?_⟩
  exact hother "#daily/2024-3-7" hparse hparse' (by decide) ⟨hwritten, hwritten'⟩

/-- A month of one digit: the fragment names a day, and is not its address. -/
theorem unpadded_names_day :
    ∃ d : Day, parseDailyHash "#daily/2024-3-7" = .ok d ∧
      parseDailyHash "#daily/2024-03-07" = .ok d ∧
      journalTarget d ≠ "/journal" ++ withMark "#daily/2024-3-7" := by
  refine ⟨⟨2024, 3, 7, by decide⟩, ?_, ?_, ?_⟩
  · decide
  · decide
  · decide

end JournalSite
