import JournalSite.Text.Blank
import JournalSite.Text.UpperCase
import Mathlib

/-!
# Upper case is upper case

A character either is its own upper case, or its upper case is made of capitals,
and a capital is its own upper case, is no blank and, if it is an ASCII character,
is one of the letters `A` to `Z` (`upperCase_eq_self_or`). So upper-casing a second
time changes nothing (**`upperCase_of_mem_upperCase`**).

This is a fact about the tables: no capital that they list lies among the letters
that they change, among the blanks or among the rest of ASCII. The tables are
compared run by run. Two runs are `apart` if they lie side by side, or if both go in
steps of two and are out of step, as the capitals and the small letters of `ĀāĂă`
are. Comparing every run with every other would take long, so the code points are
divided into `blocks` and only the runs that reach into the same block are compared:
runs with a code point in common both reach into its block.
-/

namespace JournalSite.Text

namespace CaseRun

/-- The upper-case letter of the last letter of a run. -/
def lastUpper (r : CaseRun) : Nat := r.upper + (r.last - r.first)

/-- The code points of a range, each its own upper case. -/
def ofRange (r : Range) : CaseRun := ⟨r.first, r.last, 1, r.first⟩

/-- The run of one code point. -/
def single (n : Nat) : CaseRun := ofRange ⟨n, n⟩

/-- Whether the upper-case letters of a run are no letters of another, judged by the ends and the
steps of the two. -/
def apart (r s : CaseRun) : Bool :=
  Nat.blt s.last r.upper || (Nat.blt r.lastUpper s.first ||
    ((Nat.beq r.step 2 || Nat.beq r.first r.last) &&
      (Nat.beq s.step 2 && Nat.beq ((r.upper + s.first) % 2) 1)))

theorem upper?_eq_some_iff {r : CaseRun} {m n : Nat} :
    r.upper? m = some n ↔
      (r.first ≤ m ∧ m ≤ r.last ∧ (m - r.first) % r.step = 0) ∧ r.upper + (m - r.first) = n := by
  simp only [upper?, Option.ite_none_right_eq_some, Option.some.injEq]

theorem upper?_ofRange {r : Range} {n : Nat} (h₁ : r.first ≤ n) (h₂ : n ≤ r.last) :
    (ofRange r).upper? n = some n := by
  rw [upper?_eq_some_iff]
  exact ⟨⟨h₁, h₂, Nat.mod_one _⟩, Nat.add_sub_of_le h₁⟩

theorem upper?_single (n : Nat) : (single n).upper? n = some n :=
  upper?_ofRange (Nat.le_refl n) (Nat.le_refl n)

/-- Runs that are apart have no code point in common. -/
theorem upper?_eq_none_of_apart {r s : CaseRun} {m n : Nat} (h : r.apart s = true)
    (hn : r.upper? m = some n) : s.upper? n = none := by
  rw [Option.eq_none_iff_forall_ne_some]
  intro u hu
  obtain ⟨⟨hm₁, hm₂, hm₃⟩, rfl⟩ := upper?_eq_some_iff.1 hn
  obtain ⟨⟨hu₁, hu₂, hu₃⟩, -⟩ := upper?_eq_some_iff.1 hu
  simp only [apart, lastUpper, Bool.or_eq_true, Bool.and_eq_true, Nat.blt_eq, Nat.beq_eq] at h
  rcases h with h | h | ⟨hr, hs, hodd⟩
  · omega
  · omega
  · rw [hs] at hu₃
    rcases hr with hr | hr
    · rw [hr] at hm₃
      omega
    · omega

end CaseRun

/-! ### The two tables -/

/-- The runs that the capitals come from. -/
def upperRuns : List CaseRun :=
  caseRuns ++ caseExpansions.flatMap fun e => e.2.map .single

/-- The runs that the letters with another upper case lie in. -/
def changedRuns : List CaseRun :=
  caseRuns ++ caseExpansions.map fun e => .single e.1

/-- Ranges without capitals: ASCII apart from `A` to `Z`, code points that are no characters, and
the blanks. -/
def plainRanges : List Range :=
  ⟨0, 0x40⟩ :: ⟨0x5B, 0x7F⟩ :: ⟨0xD800, 0xDFFF⟩ :: blankRanges

/-- The runs without a capital in them. -/
def lowerRuns : List CaseRun := changedRuns ++ plainRanges.map .ofRange

/-- The code points in blocks, in which the runs are few. -/
def blocks : List Range :=
  [⟨0, 0x17F⟩, ⟨0x180, 0x3FF⟩, ⟨0x400, 0x1BFF⟩, ⟨0x1C00, 0x1FFF⟩, ⟨0x2000, 0xA7FF⟩,
   ⟨0xA800, 0x10FFFF⟩]

/-- The runs whose capitals reach into a block. -/
def upperRunsIn (b : Range) : List CaseRun :=
  upperRuns.filter fun r => Nat.ble b.first r.lastUpper && Nat.ble r.upper b.last

/-- The runs without capitals that reach into a block. -/
def lowerRunsIn (b : Range) : List CaseRun :=
  lowerRuns.filter fun s => Nat.ble b.first s.last && Nat.ble s.first b.last

/-- In every block the runs of capitals and the other runs are apart. -/
theorem apart_in_blocks :
    (blocks.all fun b => (upperRunsIn b).all fun r => (lowerRunsIn b).all r.apart) = true := by
  decide +kernel

theorem lastUpper_le : (upperRuns.all fun r => Nat.ble r.lastUpper 0x10FFFF) = true := by
  decide +kernel

/-! ### Capitals -/

/-- **Capitals**: the code points that a table gives as an upper case. -/
def IsCapital (n : Nat) : Prop := ∃ r ∈ upperRuns, ∃ m, r.upper? m = some n

theorem IsCapital.le {n : Nat} (h : IsCapital n) : n ≤ 0x10FFFF := by
  obtain ⟨r, hr, m, hm⟩ := h
  obtain ⟨⟨-, hlast, -⟩, rfl⟩ := CaseRun.upper?_eq_some_iff.1 hm
  have hle := Nat.le_of_ble_eq_true (List.all_eq_true.1 lastUpper_le r hr)
  rw [CaseRun.lastUpper] at hle
  omega

theorem IsCapital.exists_block {n : Nat} (h : IsCapital n) :
    ∃ b ∈ blocks, b.first ≤ n ∧ n ≤ b.last := by
  have hle := h.le
  simp only [blocks, List.mem_cons, List.not_mem_nil, or_false, exists_eq_or_imp, exists_eq_left]
  omega

/-- No capital lies in a run without capitals. -/
theorem IsCapital.upper?_eq_none {n : Nat} (h : IsCapital n) {s : CaseRun} (hs : s ∈ lowerRuns) :
    s.upper? n = none := by
  obtain ⟨b, hb, hbn⟩ := h.exists_block
  obtain ⟨r, hr, m, hm⟩ := h
  by_contra hne
  obtain ⟨u, hu⟩ := Option.ne_none_iff_exists'.1 hne
  have hrn := CaseRun.upper?_eq_some_iff.1 hm
  have hsn := CaseRun.upper?_eq_some_iff.1 hu
  -- Both runs reach into the block of `n`, so the table theorem has compared them.
  have hrb : r ∈ upperRunsIn b := by
    simp only [upperRunsIn, List.mem_filter, CaseRun.lastUpper, Bool.and_eq_true, Nat.ble_eq]
    exact ⟨hr, by omega, by omega⟩
  have hsb : s ∈ lowerRunsIn b := by
    simp only [lowerRunsIn, List.mem_filter, Bool.and_eq_true, Nat.ble_eq]
    exact ⟨hs, by omega, by omega⟩
  have hapart : r.apart s = true := by
    have hall := List.all_eq_true.1 apart_in_blocks b hb
    exact List.all_eq_true.1 (List.all_eq_true.1 hall r hrb) s hsb
  exact hne (CaseRun.upper?_eq_none_of_apart hapart hm)

theorem IsCapital.not_mem_range {n : Nat} (h : IsCapital n) {r : Range} (hr : r ∈ plainRanges) :
    ¬(r.first ≤ n ∧ n ≤ r.last) := by
  rintro ⟨h₁, h₂⟩
  have hnone := h.upper?_eq_none (List.mem_append_right _ (List.mem_map_of_mem hr))
  rw [CaseRun.upper?_ofRange h₁ h₂] at hnone
  cases hnone

theorem IsCapital.isValidChar {n : Nat} (h : IsCapital n) : n.isValidChar := by
  have hle := h.le
  have hgap := h.not_mem_range (r := ⟨0xD800, 0xDFFF⟩) (by simp [plainRanges])
  simp only [Nat.isValidChar] at hgap ⊢
  omega

/-- A capital is no blank. -/
theorem IsCapital.isBlank {c : Char} (h : IsCapital c.toNat) : isBlank c = false := by
  rw [Bool.eq_false_iff, Text.isBlank, Ne, inRanges_iff]
  rintro ⟨r, hr, hrc⟩
  exact h.not_mem_range (by simp [plainRanges, hr]) hrc

/-- A capital of ASCII is one of the letters `A` to `Z`. -/
theorem IsCapital.ascii {n : Nat} (h : IsCapital n) (hn : n < 0x80) : 0x41 ≤ n ∧ n ≤ 0x5A := by
  have hbefore := h.not_mem_range (r := ⟨0, 0x40⟩) (by simp [plainRanges])
  have hafter := h.not_mem_range (r := ⟨0x5B, 0x7F⟩) (by simp [plainRanges])
  simp only at hbefore hafter
  omega

/-! ### Upper-casing -/

theorem mem_of_lookup_eq_some {α β : Type} [BEq α] [LawfulBEq α] {l : List (α × β)} {a : α} {b : β}
    (h : l.lookup a = some b) : (a, b) ∈ l := by
  obtain ⟨l₁, l₂, rfl, -⟩ := List.lookup_eq_some_iff.1 h
  simp

/-- A character that lies in no run of changed letters is its own upper case. -/
theorem upperCase_of_forall_changedRuns {c : Char}
    (h : ∀ s ∈ changedRuns, s.upper? c.toNat = none) : upperCase c = [c] := by
  have hlookup : caseExpansions.lookup c.toNat = none := by
    rw [Option.eq_none_iff_forall_ne_some]
    intro e he
    have hmem : CaseRun.single c.toNat ∈ changedRuns :=
      List.mem_append_right _ (List.mem_map.2 ⟨_, mem_of_lookup_eq_some he, rfl⟩)
    have hnone := h _ hmem
    rw [CaseRun.upper?_single] at hnone
    cases hnone
  have hruns : caseRuns.findSome? (·.upper? c.toNat) = none :=
    List.findSome?_eq_none_iff.2 fun s hs => h s (List.mem_append_left _ hs)
  simp only [upperCase, hlookup, hruns]

/-- A capital is its own upper case. -/
theorem IsCapital.upperCase {c : Char} (h : IsCapital c.toNat) : upperCase c = [c] :=
  upperCase_of_forall_changedRuns fun _ hs => h.upper?_eq_none (List.mem_append_left _ hs)

theorem IsCapital.toNat_ofNat {n : Nat} (h : IsCapital n) : IsCapital (Char.ofNat n).toNat := by
  rwa [Char.toNat_ofNat, if_pos h.isValidChar]

/-- A character is its own upper case, or its upper case is made of capitals. -/
theorem upperCase_eq_self_or (c : Char) :
    upperCase c = [c] ∨ ∀ d ∈ upperCase c, IsCapital d.toNat := by
  rw [upperCase]
  split
  next expansion he =>
    right
    intro d hd
    obtain ⟨n, hn, rfl⟩ := List.mem_map.1 hd
    have hrun : CaseRun.single n ∈ upperRuns :=
      List.mem_append_right _
        (List.mem_flatMap.2 ⟨_, mem_of_lookup_eq_some he, List.mem_map_of_mem hn⟩)
    exact IsCapital.toNat_ofNat ⟨_, hrun, n, CaseRun.upper?_single n⟩
  next =>
    split
    next n hn =>
      right
      intro d hd
      obtain ⟨r, hr, hrn⟩ := List.exists_of_findSome?_eq_some hn
      rw [List.mem_singleton.1 hd]
      exact IsCapital.toNat_ofNat ⟨r, List.mem_append_left _ hr, _, hrn⟩
    next => exact .inl rfl

/-- **Upper-casing twice is upper-casing once**: what an upper case is made of is its own upper
case. -/
theorem upperCase_of_mem_upperCase {c d : Char} (h : d ∈ upperCase c) : upperCase d = [d] := by
  rcases upperCase_eq_self_or c with hself | hcapital
  · rw [hself, List.mem_singleton] at h
    rwa [h]
  · exact (hcapital d h).upperCase

theorem upperCase_ne_nil (c : Char) : upperCase c ≠ [] := by
  have hexpansions : ∀ e ∈ caseExpansions, e.2 ≠ [] := by decide
  rw [upperCase]
  split
  next expansion he => simpa using hexpansions _ (mem_of_lookup_eq_some he)
  next => split <;> exact List.cons_ne_nil _ _

end JournalSite.Text
