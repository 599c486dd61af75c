import JournalSite.Proofs.Text.Leading
import JournalSite.Text.Numeral

/-!
# What becomes of a numeral with a limit

A numeral is read digit by digit, and the reader gives up at the first character that is
no digit or that makes the number too large. Here it is said without a reader what comes
of a text: it is a number if it is a numeral with a plus sign in front or none
(`PlusNumeral`) and keeps to the limit; and which of the two faults a text has is decided
by the digits it begins with (`leadingValue`), however many there are and whatever comes
behind them.

The reader stops early, so its number never is much above the limit; the digits it does
not look at can only make the number grow (`le_ofDigitChars`). That is why the early
check comes to the same as one check of the number that all leading digits make
(`readDigits_eq`).
-/

namespace JournalSite.Text

/-- Further digits do not make a number smaller. -/
theorem le_ofDigitChars (ds : List Char) (n : Nat) : n ≤ Nat.ofDigitChars 10 ds n := by
  rw [Nat.ofDigitChars_eq_ofDigitChars_zero]
  have hpos : 1 ≤ 10 ^ ds.length := Nat.one_le_pow _ _ (by decide)
  have hmul : 1 * n ≤ 10 ^ ds.length * n := Nat.mul_le_mul_right n hpos
  omega

/-- **Reading digits at once**: the number of all digits that the text begins with decides whether
it is too large, and the characters behind them whether it is a number at all. -/
theorem readDigits_eq {limit n : Nat} (hn : n ≤ limit) (cs : List Char) :
    readDigits limit n cs =
      if limit < Nat.ofDigitChars 10 (cs.takeWhile Char.isDigit) n then .error .tooLarge
      else if cs.all Char.isDigit then .ok (Nat.ofDigitChars 10 cs n) else .error .badDigit := by
  -- `n` is what the digits read so far make; while the reader goes on, it keeps to the limit
  induction cs generalizing n with
  | nil =>
    rw [List.takeWhile_nil, Nat.ofDigitChars_nil, if_neg (Nat.not_lt.2 hn)]
    rfl
  | cons c cs ih =>
    by_cases hc : c.isDigit = true
    · rw [readDigits, if_pos hc, List.takeWhile_cons_of_pos hc, Nat.ofDigitChars_cons,
        Nat.ofDigitChars_cons, List.all_cons, hc, Bool.true_and, Nat.mul_comm n 10]
      by_cases hgrown : limit < 10 * n + (c.toNat - '0'.toNat)
      · have hlarge := le_ofDigitChars (cs.takeWhile Char.isDigit) (10 * n + (c.toNat - '0'.toNat))
        simp only [if_pos hgrown, if_pos (Nat.lt_of_lt_of_le hgrown hlarge)]
      · simp only [if_neg hgrown]
        exact ih (Nat.not_lt.1 hgrown)
    · rw [readDigits, if_neg hc, List.takeWhile_cons_of_neg hc, Nat.ofDigitChars_nil,
        if_neg (Nat.not_lt.2 hn), List.all_cons, Bool.eq_false_iff.2 hc]
      rfl

/-! ### A plus sign in front -/

/-- What is left of a text without its plus sign, if it has one. -/
def withoutPlus : List Char → List Char
  | '+' :: cs => cs
  | cs => cs

/-- **Numerals with a plus sign or none**: one or more digits that denote `n`, with as many zeros in
front as one likes. -/
def PlusNumeral (cs : List Char) (n : Nat) : Prop :=
  ∃ ds, IsNumeral ds n ∧ (cs = ds ∨ cs = '+' :: ds)

/-- The number that the digits make which a text begins with, after its plus sign if it has one, up
to the first character that is no digit; 0 if there are no digits. -/
def leadingValue (cs : List Char) : Nat :=
  digitsValue ((withoutPlus cs).takeWhile Char.isDigit)

theorem withoutPlus_of_isNumeral {ds : List Char} {n : Nat} (h : IsNumeral ds n) :
    withoutPlus ds = ds := by
  obtain ⟨c, rest, rfl, hc⟩ := h.exists_eq_cons
  unfold withoutPlus
  split
  · rename_i heq
    cases heq
    exact absurd hc (by decide)
  · rfl

theorem plusNumeral_iff {cs : List Char} {n : Nat} :
    PlusNumeral cs n ↔ IsNumeral (withoutPlus cs) n := by
  constructor
  · rintro ⟨ds, hds, rfl | rfl⟩
    · rwa [withoutPlus_of_isNumeral hds]
    · exact hds
  · intro h
    refine ⟨withoutPlus cs, h, ?_⟩
    unfold withoutPlus
    split
    · exact .inr rfl
    · exact .inl rfl

theorem leadingValue_of_plusNumeral {cs : List Char} {n : Nat} (h : PlusNumeral cs n) :
    leadingValue cs = n := by
  have hds := plusNumeral_iff.1 h
  rw [leadingValue, List.takeWhile_eq_self_iff.2 hds.isDigit]
  exact hds.value

/-- The reader leaves a plus sign where it is if it stands alone. -/
theorem afterPlus_cases {cs : List Char} (hne : cs ≠ []) :
    cs = ['+'] ∨ afterPlus cs = withoutPlus cs ∧ withoutPlus cs ≠ [] := by
  unfold afterPlus
  split
  · exact .inr ⟨rfl, List.cons_ne_nil _ _⟩
  · rename_i hno
    unfold withoutPlus
    split
    · rename_i ds
      cases ds with
      | nil => exact .inl rfl
      | cons c ds => exact absurd rfl (hno c ds)
    · exact .inr ⟨rfl, hne⟩

/-! ### What comes of a text -/

/-- What comes of a text that is not empty. A plus sign that stands alone is no digit to the reader;
without it there is no digit either. -/
theorem readNumeral_eq {limit : Nat} {cs : List Char} (hne : cs ≠ []) :
    readNumeral limit cs =
      if limit < leadingValue cs then .error .tooLarge
      else if withoutPlus cs ≠ [] ∧ ∀ c ∈ withoutPlus cs, c.isDigit = true then
        .ok (digitsValue (withoutPlus cs))
      else .error .badDigit := by
  have hnotEmpty : cs.isEmpty = false := by simpa using hne
  rw [readNumeral, hnotEmpty, if_neg Bool.false_ne_true]
  rcases afterPlus_cases hne with rfl | ⟨hdigits, hsome⟩
  · have hzero : ¬ limit < leadingValue ['+'] := Nat.not_lt_zero limit
    rw [if_neg hzero, if_neg fun h => h.1 rfl]
    rfl
  · rw [hdigits, readDigits_eq (Nat.zero_le limit), leadingValue, digitsValue, digitsValue]
    simp only [List.all_eq_true, ne_eq, hsome, not_false_eq_true, true_and]

/-- A text is a number within the limit exactly if it is a numeral, with a plus sign or none, of a
number within the limit. -/
theorem readNumeral_eq_ok_iff {limit n : Nat} {cs : List Char} :
    readNumeral limit cs = .ok n ↔ PlusNumeral cs n ∧ n ≤ limit := by
  by_cases hne : cs = []
  · subst hne
    refine iff_of_false (fun h => nomatch h) ?_
    rintro ⟨h, -⟩
    exact (plusNumeral_iff.1 h).ne_nil rfl
  constructor
  · intro h
    rw [readNumeral_eq hne] at h
    split_ifs at h with hlarge hdigits
    cases h
    have hnumeral : PlusNumeral cs (digitsValue (withoutPlus cs)) :=
      plusNumeral_iff.2 ⟨hdigits.1, hdigits.2, rfl⟩
    rw [leadingValue_of_plusNumeral hnumeral] at hlarge
    exact ⟨hnumeral, Nat.not_lt.1 hlarge⟩
  · rintro ⟨h, hlimit⟩
    have hds := plusNumeral_iff.1 h
    rw [readNumeral_eq hne, leadingValue_of_plusNumeral h, if_neg (Nat.not_lt.2 hlimit),
      if_pos ⟨hds.ne_nil, hds.isDigit⟩]
    exact congrArg Except.ok hds.value

/-- A text is too large a number exactly if the digits that it begins with make one. -/
theorem readNumeral_eq_tooLarge_iff {limit : Nat} {cs : List Char} :
    readNumeral limit cs = .error .tooLarge ↔ limit < leadingValue cs := by
  by_cases hne : cs = []
  · subst hne
    exact iff_of_false (fun h => nomatch h) (Nat.not_lt_zero limit)
  rw [readNumeral_eq hne]
  split_ifs with hlarge hdigits
  · exact iff_of_true rfl hlarge
  · exact iff_of_false (fun h => nomatch h) hlarge
  · exact iff_of_false (fun h => nomatch h) hlarge

/-- In any other text that is not empty there is a bad digit. -/
theorem readNumeral_eq_badDigit_iff {limit : Nat} {cs : List Char} :
    readNumeral limit cs = .error .badDigit ↔
      cs ≠ [] ∧ leadingValue cs ≤ limit ∧ ∀ n, ¬ PlusNumeral cs n := by
  by_cases hne : cs = []
  · subst hne
    exact iff_of_false (fun h => nomatch h) (fun h => h.1 rfl)
  rw [readNumeral_eq hne]
  split_ifs with hlarge hdigits
  · exact iff_of_false (fun h => nomatch h) (fun h => absurd h.2.1 (Nat.not_le.2 hlarge))
  · refine iff_of_false (fun h => nomatch h) (fun h => ?_)
    exact h.2.2 _ (plusNumeral_iff.2 ⟨hdigits.1, hdigits.2, rfl⟩)
  · refine iff_of_true rfl ⟨hne, Nat.not_lt.1 hlarge, fun n h => hdigits ?_⟩
    have hds := plusNumeral_iff.1 h
    exact ⟨hds.ne_nil, hds.isDigit⟩

example : readNumeral 65535 "65536x".toList = .error .tooLarge := by decide

end JournalSite.Text
