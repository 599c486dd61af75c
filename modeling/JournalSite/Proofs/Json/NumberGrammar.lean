import JournalSite.Json.NumberToken
import JournalSite.Proofs.Json.StringGrammar

/-!
# The grammar of JSON numbers

The numbers of JSON, said without a reader: a sign, digits without a needless zero
in front, and perhaps a fraction and an exponent (`NumberText`). A number does not
say itself where it ends. Skipping one takes the longest number that the text
begins with, so it goes behind a given number only if the text does not go on with
a character that would make it longer (`EndsNumber`).
-/

namespace JournalSite.Json

/-! ### The grammar -/

/-- One or more digits. -/
structure Digits (ds : List Char) : Prop where
  /-- There is a digit. -/
  ne_nil : ds ≠ []
  /-- There are digits only. -/
  isDigit : ∀ c ∈ ds, c.isDigit = true

/-- The digits before the point. -/
inductive WholeText : List Char → Prop where
  /-- A zero stands alone. -/
  | zero : WholeText ['0']
  /-- Other digits do not begin with a zero. -/
  | digits {c : Char} {ds : List Char} : c ≠ '0' → Digits (c :: ds) → WholeText (c :: ds)

/-- A fraction, or nothing. -/
inductive FractionText : List Char → Prop where
  /-- No fraction. -/
  | none : FractionText []
  /-- A point and digits. -/
  | digits {ds : List Char} : Digits ds → FractionText ('.' :: ds)

/-- An exponent, or nothing. -/
inductive ExponentText : List Char → Prop where
  /-- No exponent. -/
  | none : ExponentText []
  /-- A letter, perhaps a sign, and digits. -/
  | digits {e : Char} {sign ds : List Char} : e = 'e' ∨ e = 'E' → sign ∈ [[], ['+'], ['-']] →
      Digits ds → ExponentText (e :: (sign ++ ds))

/-- A number. -/
inductive NumberText : List Char → Prop where
  /-- Its four parts, all but one of which may be empty. -/
  | mk {sign whole fraction exponent : List Char} : sign ∈ [[], ['-']] → WholeText whole →
      FractionText fraction → ExponentText exponent →
      NumberText (sign ++ (whole ++ (fraction ++ exponent)))

/-- A text whose first character cannot make a number before it longer. -/
def EndsNumber (cs : List Char) : Prop :=
  ∀ c rest, cs = c :: rest → c.isDigit = false ∧ c ≠ '.' ∧ c ≠ 'e' ∧ c ≠ 'E'

theorem EndsNumber.noDigitFirst {cs : List Char} (h : EndsNumber cs) : Text.NoDigitFirst cs :=
  fun c rest hcs => (h c rest hcs).1

/-- A number begins with a minus sign or a digit. -/
theorem NumberText.exists_eq_cons {t : List Char} (h : NumberText t) :
    ∃ c rest, t = c :: rest ∧ (c = '-' ∨ c.isDigit = true) := by
  cases h with
  | mk hsign hwhole _ _ =>
    simp only [List.mem_cons, List.not_mem_nil, or_false] at hsign
    rcases hsign with rfl | rfl
    · cases hwhole with
      | zero => exact ⟨_, _, rfl, .inr rfl⟩
      | digits _ hds => exact ⟨_, _, rfl, .inr (hds.isDigit _ List.mem_cons_self)⟩
    · exact ⟨_, _, rfl, .inl rfl⟩

/-! ### Reading digits -/

theorem allDigits_eq_takeWhile (cs : List Char) : allDigits cs = cs.takeWhile Char.isDigit := by
  rw [allDigits, Text.digitRun, List.take_length]

theorem drop_allDigits (cs : List Char) :
    cs.drop (allDigits cs).length = cs.dropWhile Char.isDigit := by
  have hcut : allDigits cs ++ cs.dropWhile Char.isDigit = cs := by
    rw [allDigits_eq_takeWhile, List.takeWhile_append_dropWhile]
  exact List.append_cancel_left ((Text.digitRun_append_drop _ cs).trans hcut.symm)

/-- **Reading digits** takes all that the text begins with, and there must be one. -/
theorem readDigits_eq_ok_iff {cs ds rest : List Char} :
    readDigits cs = .ok (ds, rest) ↔ Digits ds ∧ Text.NoDigitFirst rest ∧ cs = ds ++ rest := by
  constructor
  · intro h
    unfold readDigits at h
    simp only at h
    split at h
    · cases h
    · rename_i hne
      simp only [Except.ok.injEq, Prod.mk.injEq, drop_allDigits] at h
      obtain ⟨rfl, rfl⟩ := h
      refine ⟨⟨fun hnil => hne (by simp [hnil]), fun _ => Text.mem_digitRun⟩, ?_, ?_⟩
      · intro c rest hrest
        have hhead := List.head?_dropWhile_not Char.isDigit cs
        rw [hrest] at hhead
        simpa using hhead
      · rw [allDigits_eq_takeWhile, List.takeWhile_append_dropWhile]
  · rintro ⟨hds, hrest, rfl⟩
    have hall : allDigits (ds ++ rest) = ds :=
      Text.digitRun_append hds.isDigit (by simp) hrest
    simp only [readDigits, hall, List.isEmpty_iff, if_neg hds.ne_nil, List.drop_left]

/-- Of the runs of digits, those are in order before the point that are not a zero and more. -/
theorem wholeText_iff {ds : List Char} :
    WholeText ds ↔ Digits ds ∧ ¬ (ds.head? = some '0' ∧ 1 < ds.length) := by
  constructor
  · intro h
    cases h with
    | zero => exact ⟨⟨by simp, by simp⟩, by simp⟩
    | digits hc hds => exact ⟨hds, by simp [hc]⟩
  · rintro ⟨hds, hzero⟩
    obtain ⟨c, rest, rfl⟩ := List.exists_cons_of_ne_nil hds.ne_nil
    by_cases hc : c = '0'
    · obtain rfl : rest = [] := by
        simpa [hc] using hzero
      rw [hc]
      exact .zero
    · exact .digits hc hds

theorem readWhole_eq_ok_iff {cs ds rest : List Char} :
    readWhole cs = .ok (ds, rest) ↔ WholeText ds ∧ Text.NoDigitFirst rest ∧ cs = ds ++ rest := by
  constructor
  · intro h
    obtain ⟨⟨digits, r⟩, hread, hzero⟩ := Text.bind_eq_ok_iff.1 h
    obtain ⟨hdigits, hrest, rfl⟩ := readDigits_eq_ok_iff.1 hread
    simp only at hzero
    split at hzero
    · cases hzero
    · rename_i hne
      cases hzero
      exact ⟨wholeText_iff.2 ⟨hdigits, hne⟩, hrest, rfl⟩
  · rintro ⟨hds, hrest, rfl⟩
    obtain ⟨hdigits, hzero⟩ := wholeText_iff.1 hds
    have hread := readDigits_eq_ok_iff.2 ⟨hdigits, hrest, rfl⟩
    simp only [readWhole, hread, bind, Except.bind, if_neg hzero]

/-! ### Reading the other parts -/

theorem exists_fractionText_of_readFraction {cs rest : List Char} {fraction : Option (List Char)}
    (h : readFraction cs = .ok (fraction, rest)) : ∃ t, FractionText t ∧ cs = t ++ rest := by
  unfold readFraction at h
  split at h
  · obtain ⟨⟨ds, r⟩, hread, h⟩ := map_eq_ok_iff.1 h
    cases h
    obtain ⟨hds, -, rfl⟩ := readDigits_eq_ok_iff.1 hread
    exact ⟨_, .digits hds, rfl⟩
  · cases h
    exact ⟨[], .none, rfl⟩

theorem readFraction_append {t rest : List Char} (ht : FractionText t)
    (hdigit : Text.NoDigitFirst rest) (hpoint : ∀ r, rest ≠ '.' :: r) :
    ∃ fraction, readFraction (t ++ rest) = .ok (fraction, rest) := by
  cases ht with
  | none =>
    rw [List.nil_append]
    unfold readFraction
    split
    · exact absurd rfl (hpoint _)
    · exact ⟨_, rfl⟩
  | digits hds =>
    have hread := readDigits_eq_ok_iff.2 ⟨hds, hdigit, rfl⟩
    exact ⟨_, by rw [List.cons_append, readFraction, hread]; rfl⟩

theorem exists_sign_of_readSign (cs : List Char) :
    ∃ sign ∈ [[], ['+'], ['-']], cs = sign ++ (readSign cs).2 := by
  unfold readSign
  split
  · exact ⟨['+'], by simp, rfl⟩
  · exact ⟨['-'], by simp, rfl⟩
  · exact ⟨[], by simp, rfl⟩

theorem readSign_append {sign ds : List Char} (hsign : sign ∈ [[], ['+'], ['-']]) (hds : Digits ds)
    (rest : List Char) : (readSign (sign ++ (ds ++ rest))).2 = ds ++ rest := by
  simp only [List.mem_cons, List.not_mem_nil, or_false] at hsign
  rcases hsign with rfl | rfl | rfl
  · obtain ⟨c, ds, rfl⟩ := List.exists_cons_of_ne_nil hds.ne_nil
    have hc := hds.isDigit c List.mem_cons_self
    unfold readSign
    split
    all_goals simp_all
  · rfl
  · rfl

theorem exists_exponentText_of_readExponent {cs rest : List Char}
    {exponent : Option (Bool × List Char)} (h : readExponent cs = .ok (exponent, rest)) :
    ∃ t, ExponentText t ∧ cs = t ++ rest := by
  unfold readExponent at h
  split at h
  · rename_i c r
    split at h
    · rename_i hletter
      obtain ⟨⟨ds, after⟩, hread, h⟩ := map_eq_ok_iff.1 h
      cases h
      obtain ⟨hds, -, hr⟩ := readDigits_eq_ok_iff.1 hread
      obtain ⟨sign, hsign, hcs⟩ := exists_sign_of_readSign r
      refine ⟨_, .digits hletter hsign hds, ?_⟩
      rw [hcs, hr, List.cons_append, List.append_assoc]
    · cases h
      exact ⟨[], .none, rfl⟩
  · cases h
    exact ⟨[], .none, rfl⟩

theorem readExponent_append {t rest : List Char} (ht : ExponentText t) (hrest : EndsNumber rest) :
    ∃ exponent, readExponent (t ++ rest) = .ok (exponent, rest) := by
  cases ht with
  | none =>
    rw [List.nil_append]
    unfold readExponent
    split
    · rename_i c r
      obtain ⟨-, -, he, hE⟩ := hrest c r rfl
      rw [if_neg (by simp [he, hE])]
      exact ⟨_, rfl⟩
    · exact ⟨_, rfl⟩
  | digits hletter hsign hds =>
    have hread := readDigits_eq_ok_iff.2 ⟨hds, hrest.noDigitFirst, rfl⟩
    rw [List.cons_append, List.append_assoc, readExponent, if_pos hletter,
      readSign_append hsign hds, hread]
    exact ⟨_, rfl⟩

/-! ### Skipping a number -/

theorem readNumber_sign {sign : List Char} (hsign : sign ∈ [[], ['-']]) {whole : List Char}
    (hwhole : WholeText whole) (rest : List Char) :
    ∃ negative, readNumber (sign ++ (whole ++ rest)) = readUnsigned negative (whole ++ rest) := by
  simp only [List.mem_cons, List.not_mem_nil, or_false] at hsign
  rcases hsign with rfl | rfl
  · obtain ⟨hdigits, -⟩ := wholeText_iff.1 hwhole
    obtain ⟨c, ds, rfl⟩ := List.exists_cons_of_ne_nil hdigits.ne_nil
    have hc := hdigits.isDigit c List.mem_cons_self
    unfold readNumber
    split
    all_goals simp_all
  · exact ⟨true, rfl⟩

theorem exists_sign_of_readNumber {cs rest : List Char} {token : NumberToken}
    (h : readNumber cs = .ok (token, rest)) :
    ∃ sign ∈ [[], ['-']], ∃ negative r, cs = sign ++ r ∧
      readUnsigned negative r = .ok (token, rest) := by
  unfold readNumber at h
  split at h
  · exact ⟨['-'], by simp, _, _, rfl, h⟩
  · exact ⟨[], by simp, _, _, rfl, h⟩

theorem skipNumber_eq_ok_iff_readNumber {cs rest : List Char} :
    skipNumber cs = .ok rest ↔ ∃ token, readNumber cs = .ok (token, rest) := by
  unfold skipNumber
  cases readNumber cs with
  | error fault => simp
  | ok read => cases read; simp

/-- What is skipped as a number is one. -/
theorem exists_numberText_of_skipNumber {cs rest : List Char} (h : skipNumber cs = .ok rest) :
    ∃ t, NumberText t ∧ cs = t ++ rest := by
  obtain ⟨token, hread⟩ := skipNumber_eq_ok_iff_readNumber.1 h
  obtain ⟨sign, hsign, negative, unsigned, rfl, hunsigned⟩ := exists_sign_of_readNumber hread
  obtain ⟨⟨whole, r⟩, hwhole, hparts⟩ := Text.bind_eq_ok_iff.1 hunsigned
  obtain ⟨⟨fraction, r'⟩, hfraction, hparts⟩ := Text.bind_eq_ok_iff.1 hparts
  obtain ⟨⟨exponent, r''⟩, hexponent, htoken⟩ := Text.bind_eq_ok_iff.1 hparts
  cases htoken
  obtain ⟨hw, -, rfl⟩ := readWhole_eq_ok_iff.1 hwhole
  obtain ⟨f, hf, rfl⟩ := exists_fractionText_of_readFraction hfraction
  obtain ⟨e, he, rfl⟩ := exists_exponentText_of_readExponent hexponent
  exact ⟨_, .mk hsign hw hf he, by simp only [List.append_assoc]⟩

/-- An exponent does not go on with a digit or a point where the number before it is over. -/
theorem ExponentText.noDigitFirst {t rest : List Char} (ht : ExponentText t)
    (hrest : EndsNumber rest) :
    Text.NoDigitFirst (t ++ rest) ∧ ∀ r, t ++ rest ≠ '.' :: r := by
  cases ht with
  | none => exact ⟨hrest.noDigitFirst, fun r h => (hrest _ _ h).2.1 rfl⟩
  | digits hletter _ _ =>
    rcases hletter with rfl | rfl
    · exact ⟨Text.noDigitFirst_cons rfl _, fun r h => nomatch h⟩
    · exact ⟨Text.noDigitFirst_cons rfl _, fun r h => nomatch h⟩

theorem FractionText.noDigitFirst {t rest : List Char} (ht : FractionText t)
    (hrest : Text.NoDigitFirst rest) : Text.NoDigitFirst (t ++ rest) := by
  cases ht with
  | none => exact hrest
  | digits _ => exact Text.noDigitFirst_cons rfl _

/-- A number is skipped, if the text does not go on so as to make it longer. -/
theorem skipNumber_append {t rest : List Char} (ht : NumberText t) (hrest : EndsNumber rest) :
    skipNumber (t ++ rest) = .ok rest := by
  cases ht with
  | @mk sign whole fraction exponent hsign hwhole hfraction hexponent =>
    -- from the end of the number backwards: what follows each part does not make it longer
    obtain ⟨hdigit, hpoint⟩ := hexponent.noDigitFirst hrest
    obtain ⟨negative, hread⟩ :=
      readNumber_sign hsign hwhole (fraction ++ (exponent ++ rest))
    have hw := readWhole_eq_ok_iff.2 ⟨hwhole, hfraction.noDigitFirst hdigit, rfl⟩
    obtain ⟨f, hf⟩ := readFraction_append hfraction hdigit hpoint
    obtain ⟨e, he⟩ := readExponent_append hexponent hrest
    refine skipNumber_eq_ok_iff_readNumber.2 ?_
    simp only [List.append_assoc, hread, readUnsigned, hw, hf, he, bind, Except.bind]
    exact ⟨_, rfl⟩

end JournalSite.Json
