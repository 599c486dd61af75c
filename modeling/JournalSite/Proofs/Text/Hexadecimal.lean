import JournalSite.Proofs.Text.Leading
import JournalSite.Text.Digits

/-!
# The grammar of hexadecimal numerals

A hexadecimal numeral is one digit, or a numeral with one more digit behind it, which makes
the number sixteen times what it was and adds the digit (`HexNumeral`). The reader of numerals
finds just that (`hexNumber?_eq_some_iff`), and what is written of a number is a numeral that
denotes it (**`hexNumeral_toDigits`**), so it is read back.
-/

namespace JournalSite.Text

/-- **The grammar of hexadecimal numerals**, with the number they denote. Letters count in either
case, and there may be zeros in front. -/
inductive HexNumeral : List Char → Nat → Prop where
  /-- One digit. -/
  | digit {c : Char} {d : Nat} : hexValue? c = some d → HexNumeral [c] d
  /-- One more digit behind a numeral. -/
  | more {cs : List Char} {c : Char} {n d : Nat} : HexNumeral cs n → hexValue? c = some d →
      HexNumeral (cs ++ [c]) (n * 16 + d)

/-! ### Digits -/

/-- A digit counts from 0 to 15, and lies between `0` and `f`. -/
theorem hexValue?_bounds {c : Char} {d : Nat} (h : hexValue? c = some d) :
    d < 16 ∧ '0'.toNat ≤ c.toNat ∧ c.toNat ≤ 'f'.toNat := by
  have htoNat : ∀ x y : Char, x ≤ y ↔ x.toNat ≤ y.toNat := fun _ _ => UInt32.le_iff_toNat_le
  simp only [hexValue?, htoNat] at h
  simp only [Char.reduceToNat] at h ⊢
  split_ifs at h <;> cases h <;> omega

theorem hexValue?_digitChar {n : Nat} (hn : n < 16) :
    hexValue? (Nat.digitChar n) = some n := by
  interval_cases n <;> rfl

namespace HexNumeral

theorem ne_nil {cs : List Char} {n : Nat} (h : HexNumeral cs n) : cs ≠ [] := by
  cases h <;> simp

/-- A numeral is made of digits. -/
theorem isSome_of_mem {cs : List Char} {n : Nat} (h : HexNumeral cs n) :
    ∀ c ∈ cs, (hexValue? c).isSome = true := by
  induction h with
  | digit hd => simp [hd]
  | more _ hd ih =>
    intro c hc
    rcases List.mem_append.1 hc with hc | hc
    · exact ih c hc
    · rw [List.mem_singleton.1 hc, hd]
      rfl

theorem not_mem {cs : List Char} {n : Nat} {c : Char} (h : HexNumeral cs n)
    (hc : hexValue? c = none) : c ∉ cs := by
  intro hmem
  have hsome := h.isSome_of_mem c hmem
  rw [hc] at hsome
  cases hsome

/-- The characters of a numeral lie between `0` and `f`. -/
theorem bounds_of_mem {cs : List Char} {n : Nat} (h : HexNumeral cs n) :
    ∀ c ∈ cs, '0'.toNat ≤ c.toNat ∧ c.toNat ≤ 'f'.toNat := by
  intro c hc
  obtain ⟨d, hd⟩ := Option.isSome_iff_exists.1 (h.isSome_of_mem c hc)
  exact (hexValue?_bounds hd).2

theorem lt_pow_length {cs : List Char} {n : Nat} (h : HexNumeral cs n) : n < 16 ^ cs.length := by
  induction h with
  | digit hd => simpa using (hexValue?_bounds hd).1
  | more _ hd ih =>
    have hlt := (hexValue?_bounds hd).1
    rw [List.length_append, List.length_singleton, Nat.pow_succ]
    omega

end HexNumeral

/-! ### Reading and writing -/

theorem hexNumber?_append_singleton {cs : List Char} {c : Char} {n : Nat} :
    hexNumber? (cs ++ [c]) = some n ↔
      ∃ m d, hexNumber? cs = some m ∧ hexValue? c = some d ∧ m * 16 + d = n := by
  simp only [hexNumber?, List.mapM_append, List.mapM_cons, List.mapM_nil]
  cases cs.mapM hexValue? with
  | none => simp
  | some digits =>
    cases hexValue? c with
    | none => simp
    | some d => simp

/-- The reader takes a text for a number exactly when it is a numeral of it. -/
theorem hexNumber?_eq_some_iff {cs : List Char} {n : Nat} (hne : cs ≠ []) :
    hexNumber? cs = some n ↔ HexNumeral cs n := by
  constructor
  · intro h
    induction cs using List.reverseRecOn generalizing n with
    | nil => exact absurd rfl hne
    | append_singleton cs c ih =>
      obtain ⟨m, d, hm, hd, rfl⟩ := hexNumber?_append_singleton.1 h
      by_cases hcs : cs = []
      · subst hcs
        cases hm
        simpa using HexNumeral.digit hd
      · exact .more (ih hcs hm) hd
  · intro h
    induction h with
    | digit hd => simp [hexNumber?, hd]
    | more h hd ih => exact hexNumber?_append_singleton.2 ⟨_, _, ih h.ne_nil, hd, rfl⟩

/-- **A number in hexadecimal digits** is a numeral that denotes it. -/
theorem hexNumeral_toDigits (n : Nat) : HexNumeral (Nat.toDigits 16 n) n := by
  induction n using Nat.strongRecOn with
  | ind n ih =>
    rw [Nat.toDigits_eq_if (by decide)]
    split_ifs with hn
    · exact .digit (hexValue?_digitChar hn)
    · have hmore := (ih (n / 16) (by omega)).more (hexValue?_digitChar (Nat.mod_lt n (by decide)))
      rwa [Nat.div_add_mod' n 16] at hmore

@[simp] theorem hexNumber?_toDigits (n : Nat) : hexNumber? (Nat.toDigits 16 n) = some n :=
  (hexNumber?_eq_some_iff Nat.toDigits_ne_nil).2 (hexNumeral_toDigits n)

end JournalSite.Text
