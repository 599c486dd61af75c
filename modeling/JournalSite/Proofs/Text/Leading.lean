import JournalSite.Text.Blank
import JournalSite.Text.Digits
import Mathlib

/-!
# What a text begins with

Readers take a text apart from its beginning: first the blanks, then the digits,
then what follows. Each of the two parts is described here on its own, without a
reader: `BlankText w` says that `w` is blanks only, `IsNumeral ds n` that `ds` is
a run of digits and denotes `n`. The lemmas say that the functions which cut a
text, `trimStart` and `digitRun`, cut it exactly there, as long as the text does
not go on with another blank or another digit. A part that ends before a certain
character, and does not contain it, is found by that character
(`append_cons_unique`).
-/

namespace JournalSite.Text

/-- Two readers one after the other give a result exactly when the first one does, and the second
one does with what the first one gave. -/
theorem bind_eq_ok_iff {ε α β : Type} {x : Except ε α} {f : α → Except ε β} {b : β} :
    x >>= f = .ok b ↔ ∃ a, x = .ok a ∧ f a = .ok b := by
  cases x with
  | error e => simp [bind, Except.bind]
  | ok a => simp [bind, Except.bind]

/-! ### Up to a character -/

theorem takeWhile_append_cons {α : Type} [DecidableEq α] {a : α} {xs : List α} (h : a ∉ xs)
    (ys : List α) : (xs ++ a :: ys).takeWhile (· ≠ a) = xs := by
  have hne : ∀ x ∈ xs, decide (x ≠ a) = true := by
    intro x hx
    simpa using ne_of_mem_of_not_mem hx h
  rw [List.takeWhile_append_of_pos hne, List.takeWhile_cons_of_neg (by simp), List.append_nil]

theorem dropWhile_append_cons {α : Type} [DecidableEq α] {a : α} {xs : List α} (h : a ∉ xs)
    (ys : List α) : (xs ++ a :: ys).dropWhile (· ≠ a) = a :: ys := by
  have hne : ∀ x ∈ xs, decide (x ≠ a) = true := by
    intro x hx
    simpa using ne_of_mem_of_not_mem hx h
  rw [List.dropWhile_append_of_pos hne, List.dropWhile_cons_of_neg (by simp)]

/-- Texts that go on with the same character, and do not contain it, end at the same place. -/
theorem append_cons_unique {c : Char} {xs xs' ys ys' : List Char} (h : c ∉ xs) (h' : c ∉ xs')
    (heq : xs ++ c :: ys = xs' ++ c :: ys') : xs = xs' ∧ ys = ys' := by
  have hxs : xs = xs' := by
    rw [← takeWhile_append_cons h ys, heq, takeWhile_append_cons h' ys']
  subst hxs
  simpa using heq

/-! ### Blanks -/

/-- A text of blanks only. The empty text is one. -/
def BlankText (w : List Char) : Prop := ∀ c ∈ w, isBlank c = true

theorem blankText_nil : BlankText [] := fun _ h => absurd h List.not_mem_nil

theorem blankText_singleton {c : Char} (hc : isBlank c = true) : BlankText [c] := by
  intro d hd
  rwa [List.mem_singleton.1 hd]

/-- What `trimStart` takes off is blank. -/
theorem exists_blankText_append_trimStart (cs : List Char) :
    ∃ w, BlankText w ∧ cs = w ++ trimStart cs :=
  ⟨cs.takeWhile isBlank, List.all_eq_true.1 List.all_takeWhile,
    List.takeWhile_append_dropWhile.symm⟩

theorem trimStart_append {w : List Char} (hw : BlankText w) (cs : List Char) :
    trimStart (w ++ cs) = trimStart cs :=
  List.dropWhile_append_of_pos hw

theorem trimStart_cons {c : Char} (hc : isBlank c = false) (cs : List Char) :
    trimStart (c :: cs) = c :: cs :=
  List.dropWhile_cons_of_neg (by simp [hc])

theorem isDigit_iff_toNat (c : Char) : c.isDigit = true ↔ 48 ≤ c.toNat ∧ c.toNat ≤ 57 := by
  simp only [Char.isDigit, Bool.and_eq_true, decide_eq_true_eq, ge_iff_le, UInt32.le_iff_toNat_le]
  rfl

/-- There is no blank among the visible characters of ASCII. -/
theorem isBlank_of_visible {c : Char} (h₁ : 0x21 ≤ c.toNat) (h₂ : c.toNat ≤ 0x7E) :
    isBlank c = false := by
  rw [Bool.eq_false_iff, isBlank, Ne, inRanges_iff]
  rintro ⟨r, hr, hfirst, hlast⟩
  simp only [blankRanges, List.mem_cons, List.not_mem_nil, or_false] at hr
  rcases hr with rfl | rfl | rfl | rfl | rfl | rfl | rfl | rfl | rfl | rfl <;>
    simp only at hfirst hlast <;> omega

/-- No digit is a blank. -/
theorem isBlank_of_isDigit {c : Char} (h : c.isDigit = true) : isBlank c = false := by
  rw [isDigit_iff_toNat] at h
  exact isBlank_of_visible (by omega) (by omega)

/-! ### Numerals -/

/-- **Numerals**: `ds` is a run of one or more decimal digits, and denotes `n`. -/
structure IsNumeral (ds : List Char) (n : Nat) : Prop where
  /-- There is a digit. -/
  ne_nil : ds ≠ []
  /-- There are digits only. -/
  isDigit : ∀ c ∈ ds, c.isDigit = true
  /-- The digits denote the number. -/
  value : Nat.ofDigitChars 10 ds 0 = n

/-- A text that does not begin with a digit. -/
def NoDigitFirst (cs : List Char) : Prop := ∀ c rest, cs = c :: rest → c.isDigit = false

theorem noDigitFirst_nil : NoDigitFirst [] := fun _ _ h => nomatch h

theorem noDigitFirst_cons {c : Char} (hc : c.isDigit = false) (cs : List Char) :
    NoDigitFirst (c :: cs) := by
  intro c' rest h
  cases h
  exact hc

/-- A numeral begins with a digit. -/
theorem IsNumeral.exists_eq_cons {ds : List Char} {n : Nat} (h : IsNumeral ds n) :
    ∃ c rest, ds = c :: rest ∧ c.isDigit = true := by
  obtain ⟨c, rest, rfl⟩ := List.exists_cons_of_ne_nil h.ne_nil
  exact ⟨c, rest, rfl, h.isDigit c List.mem_cons_self⟩

/-- A digit run is cut off the front of a text. -/
theorem digitRun_append_drop (width : Nat) (cs : List Char) :
    digitRun width cs ++ cs.drop (digitRun width cs).length = cs :=
  List.prefix_iff_eq_append.1 ((List.takeWhile_prefix _).trans (List.take_prefix width cs))

/-- The digits in front of a text that goes on with no digit are its digit run, if it may be that
long. -/
theorem digitRun_append {width : Nat} {ds rest : List Char} (hd : ∀ c ∈ ds, c.isDigit = true)
    (hl : ds.length ≤ width) (hr : NoDigitFirst rest) : digitRun width (ds ++ rest) = ds := by
  have hrest : (rest.take (width - ds.length)).takeWhile Char.isDigit = [] := by
    cases rest with
    | nil => simp
    | cons c rest =>
      have hc : c.isDigit = false := hr c rest rfl
      cases width - ds.length with
      | zero => simp
      | succ k => rw [List.take_succ_cons, List.takeWhile_cons_of_neg (by simp [hc])]
  rw [digitRun, List.take_append, List.take_of_length_le hl, List.takeWhile_append_of_pos hd, hrest,
    List.append_nil]

/-- A padded number is a numeral that denotes it. -/
theorem isNumeral_padded (width n : Nat) : IsNumeral (padded width n) n := by
  refine ⟨?_, ?_, digitsValue_padded width n⟩
  · intro h
    exact Nat.toDigits_ne_nil (List.append_eq_nil_iff.1 h).2
  · intro c hc
    rcases List.mem_append.1 hc with hc | hc
    · rw [List.eq_of_mem_replicate hc]
      decide
    · exact Nat.isDigit_of_mem_toDigits (by decide) (by decide) hc

/-- A number in digits is a numeral that denotes it. -/
theorem isNumeral_toDigits (n : Nat) : IsNumeral (Nat.toDigits 10 n) n := by
  have h := isNumeral_padded 0 n
  rwa [padded, Nat.zero_sub, List.replicate_zero, List.nil_append] at h

/-- A number that fits its width is padded to that width exactly. -/
theorem length_padded {width n : Nat} (hw : 0 < width) (hn : n < 10 ^ width) :
    (padded width n).length = width := by
  have h := (Nat.length_toDigits_le_iff (by decide) hw).2 hn
  rw [padded, List.length_append, List.length_replicate]
  omega

end JournalSite.Text
