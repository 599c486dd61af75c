import JournalSite.Proofs.Text.Leading

/-!
# Numerals filled up with zeros

A number has a numeral for every count of digits from its own on, the further ones with zeros
in front, and for each count just one (`IsNumeral.eq_of_length_eq`). Writing a number in a
given width takes the one that fills the width, or the one without a zero in front if the
number needs more digits than that. Which of the numerals of a number that is can be seen of
the digits alone (**`IsNumeral.eq_padded_iff`**).
-/

namespace JournalSite.Text

/-! ### The digits of a numeral -/

/-- The first digit counts as many times as its place says. -/
theorem ofDigitChars_cons_zero (c : Char) (cs : List Char) :
    Nat.ofDigitChars 10 (c :: cs) 0 =
      10 ^ cs.length * (c.toNat - '0'.toNat) + Nat.ofDigitChars 10 cs 0 := by
  rw [Nat.ofDigitChars_cons, Nat.mul_zero, Nat.zero_add, Nat.ofDigitChars_eq_ofDigitChars_zero]

/-- A digit is known by its value. -/
theorem eq_of_isDigit_of_sub_eq {c d : Char} (hc : c.isDigit = true) (hd : d.isDigit = true)
    (h : c.toNat - '0'.toNat = d.toNat - '0'.toNat) : c = d := by
  rw [isDigit_iff_toNat] at hc hd
  have hzero : '0'.toNat = 48 := rfl
  rw [← Char.toNat_inj]
  omega

theorem ofDigitChars_lt_pow_length {ds : List Char} (h : ∀ c ∈ ds, c.isDigit = true) :
    Nat.ofDigitChars 10 ds 0 < 10 ^ ds.length := by
  induction ds with
  | nil => simp
  | cons c cs ih =>
    have hc := (isDigit_iff_toNat c).1 (h c List.mem_cons_self)
    have hrest := ih fun d hd => h d (List.mem_cons_of_mem c hd)
    have hvalue : c.toNat - '0'.toNat ≤ 9 := by
      have hzero : '0'.toNat = 48 := rfl
      omega
    have hfirst := Nat.mul_le_mul_left (10 ^ cs.length) hvalue
    rw [ofDigitChars_cons_zero, List.length_cons, Nat.pow_succ]
    omega

/-- Digits of one count that make one number are the same digits: the first is what the number is
divided by the value of its place, and the others are what remains. -/
theorem eq_of_ofDigitChars_eq {ds ds' : List Char} (h : ∀ c ∈ ds, c.isDigit = true)
    (h' : ∀ c ∈ ds', c.isDigit = true) (hlength : ds.length = ds'.length)
    (hvalue : Nat.ofDigitChars 10 ds 0 = Nat.ofDigitChars 10 ds' 0) : ds = ds' := by
  induction ds generalizing ds' with
  | nil => exact (List.length_eq_zero_iff.1 hlength.symm).symm
  | cons c cs ih =>
    obtain ⟨d, ds', rfl⟩ := List.exists_cons_of_length_eq_add_one hlength.symm
    rw [List.forall_mem_cons] at h h'
    rw [List.length_cons, List.length_cons, Nat.succ_inj] at hlength
    rw [ofDigitChars_cons_zero, ofDigitChars_cons_zero, ← hlength] at hvalue
    have hpos : 0 < 10 ^ cs.length := Nat.pow_pos (by decide)
    have hlt := ofDigitChars_lt_pow_length h.2
    have hlt' := ofDigitChars_lt_pow_length h'.2
    rw [← hlength] at hlt'
    have hfirst := congrArg (· / 10 ^ cs.length) hvalue
    have hrest := congrArg (· % 10 ^ cs.length) hvalue
    simp only [Nat.mul_add_div hpos, Nat.div_eq_of_lt hlt, Nat.div_eq_of_lt hlt',
      Nat.add_zero] at hfirst
    simp only [Nat.mul_add_mod, Nat.mod_eq_of_lt hlt, Nat.mod_eq_of_lt hlt'] at hrest
    rw [eq_of_isDigit_of_sub_eq h.1 h'.1 hfirst, ih h.2 h'.2 hlength hrest]

/-- A number has one numeral for each count of digits. -/
theorem IsNumeral.eq_of_length_eq {ds ds' : List Char} {n : Nat} (h : IsNumeral ds n)
    (h' : IsNumeral ds' n) (hlength : ds.length = ds'.length) : ds = ds' :=
  eq_of_ofDigitChars_eq h.isDigit h'.isDigit hlength (h.value.trans h'.value.symm)

theorem IsNumeral.lt_pow_length {ds : List Char} {n : Nat} (h : IsNumeral ds n) :
    n < 10 ^ ds.length := by
  rw [← h.value]
  exact ofDigitChars_lt_pow_length h.isDigit

/-- A numeral without a zero in front denotes a number that needs all of its digits. -/
theorem IsNumeral.pow_le_iff {c : Char} {cs : List Char} {n : Nat} (h : IsNumeral (c :: cs) n) :
    10 ^ cs.length ≤ n ↔ c ≠ '0' := by
  have hvalue := h.value
  rw [ofDigitChars_cons_zero] at hvalue
  have hrest := ofDigitChars_lt_pow_length fun d hd => h.isDigit d (List.mem_cons_of_mem c hd)
  constructor
  · rintro hle rfl
    rw [Nat.sub_self, Nat.mul_zero] at hvalue
    omega
  · intro hc
    have hpos : 1 ≤ c.toNat - '0'.toNat := by
      by_contra hno
      refine hc (eq_of_isDigit_of_sub_eq (h.isDigit c List.mem_cons_self) (by decide) ?_)
      omega
    have hfirst := Nat.mul_le_mul_left (10 ^ cs.length) hpos
    omega

/-! ### The width of a numeral -/

/-- A numeral that fills a width: it has as many digits, or more of them and no zero in front. -/
def FillsWidth (width : Nat) (ds : List Char) : Prop :=
  width ≤ ds.length ∧ (width < ds.length → ds.head? ≠ some '0')

instance (width : Nat) (ds : List Char) : Decidable (FillsWidth width ds) :=
  inferInstanceAs (Decidable (_ ∧ _))

theorem length_padded_eq_max (width n : Nat) :
    (padded width n).length = max width (Nat.toDigits 10 n).length := by
  rw [padded, List.length_append, List.length_replicate]
  omega

/-- A numeral that has more digits than one, and none of them in vain, has as many as its number
needs. -/
theorem IsNumeral.length_toDigits {c : Char} {cs : List Char} {n : Nat} (h : IsNumeral (c :: cs) n)
    (hcs : 0 < cs.length) : (Nat.toDigits 10 n).length = cs.length + 1 ↔ c ≠ '0' := by
  have hle : (Nat.toDigits 10 n).length ≤ cs.length + 1 :=
    (Nat.length_toDigits_le_iff (by decide) (Nat.succ_pos _)).2 h.lt_pow_length
  have hless := Nat.length_toDigits_le_iff (n := n) (b := 10) (by decide) hcs
  rw [← h.pow_le_iff, ← Nat.not_lt, ← hless]
  omega

/-- **The written numeral**: of the numerals of a number, the one it is written as in some width is
the one that fills the width. -/
theorem IsNumeral.eq_padded_iff {width n : Nat} {ds : List Char} (hwidth : 0 < width)
    (h : IsNumeral ds n) : ds = padded width n ↔ FillsWidth width ds := by
  have hlength : ds = padded width n ↔ ds.length = max width (Nat.toDigits 10 n).length := by
    rw [← length_padded_eq_max]
    constructor
    · exact congrArg List.length
    · exact h.eq_of_length_eq (isNumeral_padded width n)
  obtain ⟨c, cs, rfl, -⟩ := h.exists_eq_cons
  rw [hlength, FillsWidth, List.length_cons, List.head?_cons, Ne, Option.some_inj]
  have hneeds : (Nat.toDigits 10 n).length ≤ cs.length + 1 :=
    (Nat.length_toDigits_le_iff (by decide) (Nat.succ_pos _)).2 h.lt_pow_length
  by_cases hlt : width < cs.length + 1
  · -- more digits than the width: all of them are needed
    have hdigits := h.length_toDigits (Nat.lt_of_lt_of_le hwidth (Nat.le_of_lt_succ hlt))
    rw [Ne] at hdigits
    rw [← hdigits]
    omega
  · constructor
    · intro heq
      exact ⟨by omega, fun hmore => absurd hmore hlt⟩
    · rintro ⟨hle, -⟩
      omega

/-- A number in digits has no zero in front, unless that is all of it. -/
theorem fillsWidth_toDigits (n : Nat) : FillsWidth 1 (Nat.toDigits 10 n) := by
  have hlength : (padded 1 n).length = (Nat.toDigits 10 n).length := by
    rw [length_padded_eq_max]
    exact Nat.max_eq_right Nat.length_toDigits_pos
  have hpadded : Nat.toDigits 10 n = padded 1 n :=
    (isNumeral_toDigits n).eq_of_length_eq (isNumeral_padded 1 n) hlength.symm
  exact ((isNumeral_toDigits n).eq_padded_iff (by decide)).1 hpadded

end JournalSite.Text
