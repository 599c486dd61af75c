import JournalSite.Component.StatusPill
import JournalSite.Proofs.Text.Trim
import JournalSite.Proofs.Text.UpperCase

/-!
# Labels of status pills

A status is written for programs: `past_due`. Its label is written for people:
`Past due`. Of a label one expects that there is something to see, that it does not
begin with a blank, that no separator is left in it and that it begins with a capital,
if its first letter has one (`IsReadable`).

The blanks at the ends of a status are taken off before its separators become
spaces, and are not taken off again. So a status that begins with a separator has a
label that begins with a space, and one of separators and blanks only, a label of
blanks only: the label `Unknown` is kept for statuses of blanks only.

**`isReadable_statusLabel_iff`** says that nothing else can go wrong. No label has a
separator in it, every label begins with a character that is its own upper case, and
a label is readable unless its status begins with a separator.
-/

namespace JournalSite

open Text

/-- A character that stands between two words of a status. -/
def IsSeparator (c : Char) : Prop := c = '_' ∨ c = '-'

instance : DecidablePred IsSeparator := fun _ => inferInstanceAs (Decidable (_ ∨ _))

/-- A character of a word: neither a blank nor a separator. -/
def IsWordChar (c : Char) : Prop := isBlank c = false ∧ ¬IsSeparator c

/-- A text that begins with a separator, apart from blanks. -/
def LeadsWithSeparator (cs : List Char) : Prop :=
  ∃ w c rest, BlankText w ∧ IsSeparator c ∧ cs = w ++ c :: rest

/-- What every label is: words without separators, with a capital at the beginning. -/
structure IsTidy (label : String) : Prop where
  /-- No separator is left. -/
  unseparated : ∀ c ∈ label.toList, ¬IsSeparator c
  /-- There is a first character, and it is its own upper case. -/
  capital : ∃ c rest, label.toList = c :: rest ∧ upperCase c = [c]

/-- **Readable labels.** -/
structure IsReadable (label : String) : Prop extends IsTidy label where
  /-- There is something to see. -/
  visible : ∃ c ∈ label.toList, isBlank c = false
  /-- The label does not begin with a blank. -/
  beginning : ∀ c ∈ label.toList.head?, isBlank c = false

/-! ### Separators turned into spaces -/

theorem mem_spaced_iff {d : Char} {cs : List Char} :
    d ∈ spaced cs ↔ (d = ' ' ∧ ∃ c ∈ cs, IsSeparator c) ∨ d ∈ cs ∧ ¬IsSeparator d := by
  simp only [spaced, ← IsSeparator.eq_def, List.mem_map]
  constructor
  · rintro ⟨c, hc, rfl⟩
    split_ifs with hsep
    · exact .inl ⟨rfl, c, hc, hsep⟩
    · exact .inr ⟨hc, hsep⟩
  · rintro (⟨rfl, c, hc, hsep⟩ | ⟨hd, hsep⟩)
    · exact ⟨c, hc, if_pos hsep⟩
    · exact ⟨d, hd, if_neg hsep⟩

theorem not_isSeparator_of_mem_spaced {d : Char} {cs : List Char} (h : d ∈ spaced cs) :
    ¬IsSeparator d := by
  rcases mem_spaced_iff.1 h with ⟨rfl, -⟩ | ⟨-, hsep⟩
  · decide
  · exact hsep

/-- Between the words of a text the spaced text has blanks only. -/
theorem mem_spaced_iff_of_not_isBlank {d : Char} (hd : isBlank d = false) {cs : List Char} :
    d ∈ spaced cs ↔ d ∈ cs ∧ ¬IsSeparator d := by
  rw [mem_spaced_iff, or_iff_right]
  rintro ⟨rfl, -⟩
  exact absurd hd (by decide)

/-- The upper case of a character of a word is of such characters. -/
theorem IsWordChar.of_mem_upperCase {c d : Char} (hc : IsWordChar c) (hd : d ∈ upperCase c) :
    IsWordChar d := by
  rcases upperCase_eq_self_or c with hself | hcapital
  · rw [hself, List.mem_singleton] at hd
    rwa [hd]
  · refine ⟨(hcapital d hd).isBlank, ?_⟩
    rintro (rfl | rfl)
    · exact absurd ((hcapital _ hd).ascii (by decide)) (by decide)
    · exact absurd ((hcapital _ hd).ascii (by decide)) (by decide)

/-! ### Labels -/

/-- A status is blank and its label is `Unknown`, or it has a first character that is no blank. If
that is a separator, the label begins with a space in its place, and else with its upper case. -/
theorem statusLabel_cases (status : String) :
    BlankText status.toList ∧ statusLabel status = "Unknown" ∨
      ∃ w c rest, BlankText w ∧ isBlank c = false ∧ status.toList = w ++ c :: rest ∧
        (statusLabel status).toList =
          (if IsSeparator c then [' '] else upperCase c) ++ spaced (trimEnd rest) := by
  rcases trim_cases status.toList with ⟨hblank, htrim⟩ | ⟨w, c, rest, hw, hc, hcs, htrim⟩
  · exact .inl ⟨hblank, by rw [statusLabel, htrim]; rfl⟩
  · refine .inr ⟨w, c, rest, hw, hc, hcs, ?_⟩
    have hspaced : spaced (c :: trimEnd rest) =
        (if IsSeparator c then ' ' else c) :: spaced (trimEnd rest) := rfl
    rw [statusLabel, htrim, hspaced, String.toList_ofList]
    split_ifs with hsep
    · rfl
    · rfl

/-- Words with no blank in front begin with a separator exactly if their first character is one. -/
theorem leadsWithSeparator_append_cons {w rest : List Char} {c : Char} (hw : BlankText w)
    (hc : isBlank c = false) : LeadsWithSeparator (w ++ c :: rest) ↔ IsSeparator c := by
  refine ⟨?_, fun hsep => ⟨w, c, rest, hw, hsep, rfl⟩⟩
  rintro ⟨w', c', rest', hw', hsep, heq⟩
  have hc' : isBlank c' = false := by
    rcases hsep with rfl | rfl
    · decide
    · decide
  have hstart := congrArg trimStart heq
  rw [trimStart_append hw, trimStart_append hw', trimStart_cons hc, trimStart_cons hc'] at hstart
  cases hstart
  exact hsep

theorem not_leadsWithSeparator_of_blankText {cs : List Char} (h : BlankText cs) :
    ¬LeadsWithSeparator cs := by
  rintro ⟨w, c, rest, -, hsep, rfl⟩
  have hc := h c (by simp)
  rcases hsep with rfl | rfl
  · exact absurd hc (by decide)
  · exact absurd hc (by decide)

theorem isReadable_unknown : IsReadable "Unknown" where
  unseparated := by simp [IsSeparator]
  capital := ⟨'U', "nknown".toList, by decide, by decide +kernel⟩
  visible := ⟨'U', by decide, by decide⟩
  beginning := by
    rintro c ⟨⟩
    decide

/-- A label with a space where its status begins with a separator. -/
theorem isTidy_of_isSeparator {label : String} {rest : List Char}
    (h : label.toList = [' '] ++ spaced rest) : IsTidy label where
  unseparated := by
    rw [h]
    intro d hd
    rcases List.mem_append.1 hd with hd | hd
    · rw [List.mem_singleton.1 hd]
      decide
    · exact not_isSeparator_of_mem_spaced hd
  capital := ⟨' ', spaced rest, h, by decide +kernel⟩

/-- A label that begins with the upper case of a character of a word. -/
theorem isReadable_of_isWordChar {label : String} {c : Char} {rest : List Char} (hc : IsWordChar c)
    (h : label.toList = upperCase c ++ spaced rest) : IsReadable label := by
  obtain ⟨d, ds, hd⟩ := List.exists_cons_of_ne_nil (upperCase_ne_nil c)
  have hmem : d ∈ upperCase c := by simp [hd]
  have hcons : label.toList = d :: (ds ++ spaced rest) := by rw [h, hd, List.cons_append]
  have hword : IsWordChar d := hc.of_mem_upperCase hmem
  refine ⟨⟨?_, d, _, hcons, upperCase_of_mem_upperCase hmem⟩, ⟨d, by simp [hcons], hword.1⟩, ?_⟩
  · rw [h]
    intro e he
    rcases List.mem_append.1 he with he | he
    · exact (hc.of_mem_upperCase he).2
    · exact not_isSeparator_of_mem_spaced he
  · rw [hcons]
    rintro e ⟨⟩
    exact hword.1

/-- There is something to see in the label of a status that is not blank exactly if the status has
a word. -/
theorem exists_visible_iff {label : String} {w rest : List Char} {c : Char} (hw : BlankText w)
    (hc : isBlank c = false)
    (h : label.toList = (if IsSeparator c then [' '] else upperCase c) ++ spaced (trimEnd rest)) :
    (∃ d ∈ label.toList, isBlank d = false) ↔ ∃ d ∈ w ++ c :: rest, IsWordChar d := by
  constructor
  · rintro ⟨d, hd, hvisible⟩
    rw [h, List.mem_append] at hd
    rcases hd with hd | hd
    · split_ifs at hd with hsep
      · rw [List.mem_singleton.1 hd] at hvisible
        exact absurd hvisible (by decide)
      · exact ⟨c, by simp, hc, hsep⟩
    · rw [mem_spaced_iff_of_not_isBlank hvisible, mem_trimEnd_iff hvisible] at hd
      exact ⟨d, by simp [hd.1], hvisible, hd.2⟩
  · rintro ⟨d, hd, hword⟩
    simp only [List.mem_append, List.mem_cons] at hd
    rcases hd with hd | rfl | hd
    · exact absurd (hw d hd) (by simp [hword.1])
    · rw [if_neg hword.2] at h
      exact (isReadable_of_isWordChar hword h).visible
    · have hrest : d ∈ spaced (trimEnd rest) :=
        (mem_spaced_iff_of_not_isBlank hword.1).2 ⟨(mem_trimEnd_iff hword.1).2 hd, hword.2⟩
      exact ⟨d, by rw [h]; exact List.mem_append_right _ hrest, hword.1⟩

/-- **Which labels are readable.** Every label is tidy, and that of a blank status is `Unknown`. A
label has something to see exactly if its status is blank or has a character of a word, and it is
readable exactly if its status does not begin with a separator. -/
theorem isReadable_statusLabel_iff (status : String) :
    IsTidy (statusLabel status) ∧
      (BlankText status.toList → statusLabel status = "Unknown") ∧
      ((∃ c ∈ (statusLabel status).toList, isBlank c = false) ↔
        BlankText status.toList ∨ ∃ c ∈ status.toList, IsWordChar c) ∧
      (IsReadable (statusLabel status) ↔ ¬LeadsWithSeparator status.toList) := by
  rcases statusLabel_cases status with ⟨hblank, hlabel⟩ | ⟨w, c, rest, hw, hc, hcs, hlabel⟩
  · rw [hlabel]
    exact ⟨isReadable_unknown.toIsTidy, fun _ => rfl,
      iff_of_true isReadable_unknown.visible (.inl hblank),
      iff_of_true isReadable_unknown (not_leadsWithSeparator_of_blankText hblank)⟩
  · have hnot : ¬BlankText status.toList := by
      intro hblank
      rw [hblank c (by simp [hcs])] at hc
      cases hc
    have hvisible := exists_visible_iff hw hc hlabel
    rw [hcs] at hnot ⊢
    rw [or_iff_right hnot, leadsWithSeparator_append_cons hw hc]
    by_cases hsep : IsSeparator c
    · rw [if_pos hsep] at hlabel
      refine ⟨isTidy_of_isSeparator hlabel, fun h => absurd h hnot, hvisible, ?_⟩
      refine iff_of_false (fun hreadable => ?_) (not_not_intro hsep)
      exact absurd (hreadable.beginning ' ' (by rw [hlabel]; rfl)) (by decide)
    · rw [if_neg hsep] at hlabel
      have hreadable := isReadable_of_isWordChar ⟨hc, hsep⟩ hlabel
      exact ⟨hreadable.toIsTidy, fun h => absurd h hnot, hvisible, iff_of_true hreadable hsep⟩

example : statusLabel "past_due" = "Past due" := by decide

/-- A status of one separator has a label with nothing to see. -/
theorem statusLabel_underscore : statusLabel "_" = " " ∧ ¬IsReadable (statusLabel "_") := by
  have hlabel : statusLabel "_" = " " := by decide
  refine ⟨hlabel, fun h => ?_⟩
  obtain ⟨c, hc, hvisible⟩ := h.visible
  rw [hlabel] at hc
  rw [List.mem_singleton.1 hc] at hvisible
  exact absurd hvisible (by decide)

end JournalSite
