import JournalSite.Calendar.DayText
import JournalSite.Proofs.Text.Leading

/-!
# The grammar of dates

Which texts are dates is said here without a reader (`DateText`): a year, a month
and a day, each with blanks in front if one likes, and a hyphen between them and
nowhere else; a hyphen right before the digits of the year is its sign.

**`ofDateChars?_eq_ok_iff`**: the reader takes a text for the date of a day
exactly when the grammar does. The reader is greedy and gives up early, the
grammar may be cut anywhere and denotes numbers of any size; they agree because
what follows a numeral is a hyphen or the end, and because a number the reader
refuses on the way is never that of a day.

Dates as they are written belong to the grammar (`dateText_dateChars`), so they
are read back.
-/

namespace JournalSite

open Text

/-! ### The grammar -/

/-- Years in writing, with the year they denote. -/
inductive YearText : List Char → Int → Prop where
  /-- One to four digits. -/
  | plain {ds : List Char} {n : Nat} : IsNumeral ds n → ds.length ≤ 4 → YearText ds n
  /-- A plus sign and any number of digits. -/
  | plus {ds : List Char} {n : Nat} : IsNumeral ds n → YearText ('+' :: ds) n
  /-- A minus sign and any number of digits. -/
  | minus {ds : List Char} {n : Nat} : IsNumeral ds n → YearText ('-' :: ds) (-n)

/-- Months and days of the month in writing: one or two digits. -/
def PartText (ds : List Char) (n : Nat) : Prop := IsNumeral ds n ∧ ds.length ≤ 2

/-- **The grammar of dates**: blanks and a year, a hyphen, blanks and a month, a hyphen, blanks and
a day of the month. The three numbers need not name a day. -/
inductive DateText : List Char → Int → Nat → Nat → Prop where
  /-- The six pieces and the two hyphens, with nothing left over. -/
  | pieces {w₁ ys w₂ ms w₃ ds : List Char} {y : Int} {m d : Nat} : BlankText w₁ → YearText ys y →
      BlankText w₂ → PartText ms m → BlankText w₃ → PartText ds d →
      DateText (w₁ ++ (ys ++ '-' :: (w₂ ++ (ms ++ '-' :: (w₃ ++ ds))))) y m d

theorem noDigitFirst_hyphen (cs : List Char) : NoDigitFirst ('-' :: cs) :=
  noDigitFirst_cons (by decide) cs

namespace DateReading

/-! ### Reading one piece -/

theorem readNumeral_append {width n : Nat} {ds rest : List Char} (h : IsNumeral ds n)
    (hl : ds.length ≤ width) (hr : NoDigitFirst rest) :
    readNumeral width (ds ++ rest) = .ok (n, rest) := by
  obtain ⟨c, ds', rfl, -⟩ := h.exists_eq_cons
  unfold readNumeral
  simp only [digitRun_append h.isDigit hl hr]
  simp [digitsValue, h.value]

theorem exists_isNumeral_of_readNumeral {width n : Nat} {cs rest : List Char}
    (h : readNumeral width cs = .ok (n, rest)) :
    ∃ ds, cs = ds ++ rest ∧ IsNumeral ds n ∧ ds.length ≤ width := by
  simp only [readNumeral] at h
  split at h
  · cases h
  · split at h
    · cases h
    · rename_i hne
      cases h
      refine ⟨digitRun width cs, (digitRun_append_drop width cs).symm,
        ⟨?_, fun c => mem_digitRun, rfl⟩, length_digitRun_le width cs⟩
      simpa using hne

/-- A part is found behind its blanks, and read up to what follows it. -/
theorem readNumeral_trimStart_append {n : Nat} {w ds rest : List Char} (hw : BlankText w)
    (h : PartText ds n) (hr : NoDigitFirst rest) :
    readNumeral 2 (trimStart (w ++ (ds ++ rest))) = .ok (n, rest) := by
  obtain ⟨hn, hl⟩ := h
  have htrim : trimStart (w ++ (ds ++ rest)) = ds ++ rest := by
    obtain ⟨c, ds', rfl, hc⟩ := hn.exists_eq_cons
    rw [trimStart_append hw, List.cons_append, trimStart_cons (isBlank_of_isDigit hc)]
  rw [htrim]
  exact readNumeral_append hn hl hr

theorem readPart_append {greatest n : Nat} {w ds rest : List Char} (hw : BlankText w)
    (h : PartText ds n) (hr : NoDigitFirst rest) (h₁ : 1 ≤ n) (h₂ : n ≤ greatest) :
    readPart greatest (w ++ (ds ++ rest)) = .ok (n, rest) := by
  unfold readPart
  rw [readNumeral_trimStart_append hw h hr, bind_eq_ok_iff]
  exact ⟨_, rfl, if_pos ⟨h₁, h₂⟩⟩

theorem exists_partText_of_readPart {greatest n : Nat} {cs rest : List Char}
    (h : readPart greatest cs = .ok (n, rest)) :
    ∃ w ds, cs = w ++ (ds ++ rest) ∧ BlankText w ∧ PartText ds n := by
  unfold readPart at h
  rw [bind_eq_ok_iff] at h
  obtain ⟨⟨n', rest'⟩, hn, h⟩ := h
  simp only at h
  split at h
  · cases h
    obtain ⟨w, hw, hcs⟩ := exists_blankText_append_trimStart cs
    obtain ⟨ds, hds, hnum, hl⟩ := exists_isNumeral_of_readNumeral hn
    exact ⟨w, ds, by rw [← hds, ← hcs], hw, hnum, hl⟩
  · cases h

/-- A year is found behind its blanks. -/
theorem trimStart_append_yearText {w ys rest : List Char} {y : Int} (hw : BlankText w)
    (h : YearText ys y) : trimStart (w ++ (ys ++ rest)) = ys ++ rest := by
  rw [trimStart_append hw]
  cases h with
  | plain hn _ =>
    obtain ⟨c, ds', rfl, hc⟩ := hn.exists_eq_cons
    exact trimStart_cons (isBlank_of_isDigit hc) _
  | plus _ => exact trimStart_cons (by decide) _
  | minus _ => exact trimStart_cons (by decide) _

/-- Reads a year like `readYear`, of any size and without blanks. -/
def readSigned : List Char → Except DateFault (Int × List Char)
  | '-' :: cs => (readNumeral cs.length cs).map fun (n, rest) => (-(n : Int), rest)
  | '+' :: cs => (readNumeral cs.length cs).map fun (n, rest) => ((n : Int), rest)
  | cs => (readNumeral 4 cs).map fun (n, rest) => ((n : Int), rest)

/-- The check on the size of a year comes last, after its sign and its digits. -/
theorem readYear_eq_bind (cs : List Char) :
    readYear cs = readSigned (trimStart cs) >>= fun (y, rest) =>
      if -2147483648 ≤ y ∧ y ≤ 2147483647 then .ok (y, rest) else .error .outOfRange := by
  unfold readYear
  generalize trimStart cs = cs'
  simp only
  split
  · rw [readSigned]
  · rw [readSigned]
  · rw [readSigned] <;> assumption

theorem readYear_eq_ok_iff {cs rest : List Char} {y : Int} :
    readYear cs = .ok (y, rest) ↔
      readSigned (trimStart cs) = .ok (y, rest) ∧ -2147483648 ≤ y ∧ y ≤ 2147483647 := by
  rw [readYear_eq_bind, bind_eq_ok_iff]
  constructor
  · rintro ⟨⟨y', rest'⟩, hread, h⟩
    simp only at h
    split at h
    · cases h
      exact ⟨hread, ‹_›⟩
    · cases h
  · rintro ⟨hread, hy⟩
    exact ⟨_, hread, if_pos hy⟩

theorem readSigned_append {ys rest : List Char} {y : Int} (h : YearText ys y)
    (hr : NoDigitFirst rest) : readSigned (ys ++ rest) = .ok (y, rest) := by
  cases h with
  | plain hn hl =>
    have hread := readNumeral_append hn hl hr
    obtain ⟨c, ds', rfl, hc⟩ := hn.exists_eq_cons
    unfold readSigned
    split
    · -- a digit is no minus sign
      rename_i heq
      cases heq
      exact absurd hc (by decide)
    · -- and no plus sign
      rename_i heq
      cases heq
      exact absurd hc (by decide)
    · rw [hread]
      rfl
  | plus hn =>
    rw [List.cons_append, readSigned, readNumeral_append hn (by simp) hr]
    rfl
  | minus hn =>
    rw [List.cons_append, readSigned, readNumeral_append hn (by simp) hr]
    rfl

theorem exists_isNumeral_of_map {width : Nat} {cs rest : List Char} {y : Int} {f : Nat → Int}
    (h : ((readNumeral width cs).map fun p => (f p.1, p.2)) = .ok (y, rest)) :
    ∃ n ds, cs = ds ++ rest ∧ IsNumeral ds n ∧ ds.length ≤ width ∧ y = f n := by
  cases hn : readNumeral width cs with
  | error e =>
    rw [hn] at h
    cases h
  | ok p =>
    rw [hn] at h
    cases h
    obtain ⟨ds, hds, hnum, hl⟩ := exists_isNumeral_of_readNumeral hn
    exact ⟨p.1, ds, hds, hnum, hl, rfl⟩

theorem exists_yearText_of_readSigned {cs rest : List Char} {y : Int}
    (h : readSigned cs = .ok (y, rest)) : ∃ ys, cs = ys ++ rest ∧ YearText ys y := by
  unfold readSigned at h
  split at h
  · obtain ⟨n, ds, rfl, hn, -, rfl⟩ := exists_isNumeral_of_map (f := fun n => -(n : Int)) h
    exact ⟨'-' :: ds, rfl, .minus hn⟩
  · obtain ⟨n, ds, rfl, hn, -, rfl⟩ := exists_isNumeral_of_map (f := fun n => (n : Int)) h
    exact ⟨'+' :: ds, rfl, .plus hn⟩
  · obtain ⟨n, ds, rfl, hn, hl, rfl⟩ := exists_isNumeral_of_map (f := fun n => (n : Int)) h
    exact ⟨ds, rfl, .plain hn hl⟩

theorem readYear_append {w ys rest : List Char} {y : Int} (hw : BlankText w) (h : YearText ys y)
    (hr : NoDigitFirst rest) (hy : -2147483648 ≤ y ∧ y ≤ 2147483647) :
    readYear (w ++ (ys ++ rest)) = .ok (y, rest) := by
  rw [readYear_eq_ok_iff, trimStart_append_yearText hw h]
  exact ⟨readSigned_append h hr, hy⟩

theorem exists_yearText_of_readYear {cs rest : List Char} {y : Int}
    (h : readYear cs = .ok (y, rest)) :
    ∃ w ys, cs = w ++ (ys ++ rest) ∧ BlankText w ∧ YearText ys y := by
  obtain ⟨hread, -⟩ := readYear_eq_ok_iff.1 h
  obtain ⟨w, hw, hcs⟩ := exists_blankText_append_trimStart cs
  obtain ⟨ys, hys, hyear⟩ := exists_yearText_of_readSigned hread
  exact ⟨w, ys, by rw [← hys, ← hcs], hw, hyear⟩

theorem readHyphen_eq_ok_iff {cs rest : List Char} :
    readHyphen cs = .ok rest ↔ cs = '-' :: rest := by
  unfold readHyphen
  split
  · simp
  · simp
  · rename_i hne
    simp only [reduceCtorEq, false_iff, List.cons.injEq, not_and]
    exact fun h => absurd h hne

/-! ### Reading a date -/

/-- What is read is in the grammar, and is a day. -/
theorem exists_dateText_of_ofDateChars? {t : List Char} {day : Day}
    (h : Day.ofDateChars? t = .ok day) :
    ∃ y m d, DateText t y m d ∧ Day.ofParts? y m d = some day := by
  unfold Day.ofDateChars? at h
  simp only [bind_eq_ok_iff, Prod.exists, readHyphen_eq_ok_iff] at h
  obtain ⟨y, _, hy, cs₂, rfl, m, _, hm, cs₄, rfl, d, cs₅, hd, h⟩ := h
  obtain ⟨w₁, ys, rfl, hw₁, hys⟩ := exists_yearText_of_readYear hy
  obtain ⟨w₂, ms, rfl, hw₂, hms⟩ := exists_partText_of_readPart hm
  obtain ⟨w₃, ds, rfl, hw₃, hds⟩ := exists_partText_of_readPart hd
  split at h
  · rename_i hend
    rw [List.isEmpty_iff] at hend
    subst hend
    refine ⟨y, m, d, ?_, ?_⟩
    · simpa using DateText.pieces hw₁ hys hw₂ hms hw₃ hds
    · split at h
      · cases h
        assumption
      · cases h
  · cases h

/-- What is in the grammar and is a day is read. The checks on the way let the numbers of a day
pass, and every numeral ends where a hyphen or the end of the text follows. -/
theorem ofDateChars?_of_dateText {t : List Char} {y : Int} {m d : Nat} {day : Day}
    (h : DateText t y m d) (hday : Day.ofParts? y m d = some day) :
    Day.ofDateChars? t = .ok day := by
  have hisDay : IsDay y m d := by
    obtain ⟨rfl, rfl, rfl⟩ := Day.ofParts?_eq_some_iff.1 hday
    exact day.isDay
  obtain ⟨hy₁, hy₂, hm₁, hm₂, hd₁, hd₂⟩ := hisDay
  have hd₃ : d ≤ 31 := Nat.le_trans hd₂ (monthLength_le y m)
  simp only [firstYear, lastYear] at hy₁ hy₂
  cases h with
  | pieces hw₁ hys hw₂ hms hw₃ hds =>
    have hlast := readPart_append hw₃ hds noDigitFirst_nil hd₁ hd₃
    rw [List.append_nil] at hlast
    unfold Day.ofDateChars?
    simp only [bind_eq_ok_iff, Prod.exists, readHyphen_eq_ok_iff]
    refine ⟨_, _, readYear_append hw₁ hys (noDigitFirst_hyphen _) (by omega), _, rfl,
      _, _, readPart_append hw₂ hms (noDigitFirst_hyphen _) hm₁ hm₂, _, rfl, _, _, hlast, ?_⟩
    simp [hday]

end DateReading

open DateReading in
/-- **Exact acceptance**: a text is read as a day exactly when it is a date by the grammar and its
three numbers are those of the day. -/
theorem Day.ofDateChars?_eq_ok_iff {t : List Char} {day : Day} :
    Day.ofDateChars? t = .ok day ↔ DateText t day.year day.month day.day := by
  constructor
  · intro h
    obtain ⟨y, m, d, ht, hday⟩ := exists_dateText_of_ofDateChars? h
    obtain ⟨rfl, rfl, rfl⟩ := Day.ofParts?_eq_some_iff.1 hday
    exact ht
  · intro h
    exact ofDateChars?_of_dateText h (Day.ofParts?_parts day)

/-! ### One reading -/

open DateReading in
/-- A year in writing denotes one year. -/
theorem YearText.unique {ys : List Char} {y y' : Int} (h : YearText ys y) (h' : YearText ys y') :
    y = y' := by
  have hread := readSigned_append h noDigitFirst_nil
  rw [readSigned_append h' noDigitFirst_nil] at hread
  cases hread
  rfl

open DateReading in
/-- A text is the date of one year, month and day only, also if they name no day. -/
theorem DateText.unique {t : List Char} {y y' : Int} {m m' d d' : Nat} (h : DateText t y m d)
    (h' : DateText t y' m' d') : y = y' ∧ m = m' ∧ d = d' := by
  obtain ⟨hw₁, hys, hw₂, hms, hw₃, hds⟩ := h
  rename_i w₁ ys w₂ ms w₃ ds
  generalize ht : w₁ ++ (ys ++ '-' :: (w₂ ++ (ms ++ '-' :: (w₃ ++ ds)))) = t at h'
  obtain ⟨hw₁', hys', hw₂', hms', hw₃', hds'⟩ := h'
  -- the blanks are cut off both readings, and the year is read up to the hyphen
  have hyear := congrArg (fun cs => readSigned (trimStart cs)) ht
  simp only [trimStart_append_yearText hw₁ hys, trimStart_append_yearText hw₁' hys',
    readSigned_append hys (noDigitFirst_hyphen _), readSigned_append hys' (noDigitFirst_hyphen _),
    Except.ok.injEq, Prod.mk.injEq, List.cons.injEq, true_and] at hyear
  obtain ⟨rfl, hrest⟩ := hyear
  have hmonth := congrArg (fun cs => DateReading.readNumeral 2 (trimStart cs)) hrest
  simp only [readNumeral_trimStart_append hw₂ hms (noDigitFirst_hyphen _),
    readNumeral_trimStart_append hw₂' hms' (noDigitFirst_hyphen _),
    Except.ok.injEq, Prod.mk.injEq, List.cons.injEq, true_and] at hmonth
  obtain ⟨rfl, hlast⟩ := hmonth
  have hday := readNumeral_trimStart_append hw₃ hds noDigitFirst_nil
  rw [List.append_nil, hlast, ← List.append_nil (_ ++ _), List.append_assoc,
    readNumeral_trimStart_append hw₃' hds' noDigitFirst_nil] at hday
  cases hday
  exact ⟨rfl, rfl, rfl⟩

/-! ### Dates as they are written -/

/-- A written year is in the grammar, with its sign and its padding. -/
theorem yearText_yearChars (y : Int) : YearText (yearChars y) y := by
  have hn := isNumeral_padded 4 y.natAbs
  unfold yearChars
  split
  · have hl : (padded 4 y.natAbs).length = 4 := length_padded (by decide) (by omega)
    have h := YearText.plain hn (Nat.le_of_eq hl)
    rwa [show (y.natAbs : Int) = y by omega] at h
  · split
    · have h := YearText.minus hn
      rwa [show -(y.natAbs : Int) = y by omega] at h
    · have h := YearText.plus hn
      rwa [show (y.natAbs : Int) = y by omega] at h

theorem partText_padded {n : Nat} (hn : n < 100) : PartText (padded 2 n) n :=
  ⟨isNumeral_padded 2 n, Nat.le_of_eq (length_padded (by decide) hn)⟩

/-- The date of a day is a date by the grammar, and of that day. -/
theorem dateText_dateChars (day : Day) : DateText day.dateChars day.year day.month day.day := by
  obtain ⟨-, -, -, hm, -, hd⟩ := day.isDay
  have hd' := monthLength_le day.year day.month
  show DateText ([] ++ (yearChars day.year ++ '-' ::
    ([] ++ (padded 2 day.month ++ '-' :: ([] ++ padded 2 day.day))))) _ _ _
  exact .pieces blankText_nil (yearText_yearChars day.year) blankText_nil
    (partText_padded (by omega)) blankText_nil (partText_padded (by omega))

end JournalSite
