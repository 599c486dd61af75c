import JournalSite.Proofs.Text.Leading

/-!
# What trimming leaves

A text is some blanks, then a text that neither begins nor ends with a blank, then some
blanks again. `Trims cs v` says that `v` is that text in the middle. It is so without
saying how it is found; that there is one for each text, and one only, and that `trim`
finds it, is `trims_iff`.

The blanks at the beginning are taken off first. A text of blanks only has lost them all by
then, and nothing is left in the middle.
-/

namespace JournalSite.Text

/-- **Trimmed texts**: `v` is `cs` without the blanks around it. -/
structure Trims (cs v : List Char) : Prop where
  /-- Around `v` there are blanks only. -/
  surrounded : ∃ before after, BlankText before ∧ BlankText after ∧ cs = before ++ (v ++ after)
  /-- There is no blank left in front. -/
  first : ∀ c ∈ v.head?, isBlank c = false
  /-- There is no blank left behind. -/
  last : ∀ c ∈ v.getLast?, isBlank c = false

/-! ### Blanks at the end -/

/-- What `trimEnd` takes off is blank. -/
theorem exists_trimEnd_append_blankText (cs : List Char) :
    ∃ w, BlankText w ∧ cs = trimEnd cs ++ w := by
  obtain ⟨w, hw, hcs⟩ := exists_blankText_append_trimStart cs.reverse
  refine ⟨w.reverse, fun c hc => hw c (List.mem_reverse.1 hc), ?_⟩
  rw [trimEnd, ← List.reverse_append, ← trimStart, ← hcs, List.reverse_reverse]

theorem mem_trimEnd_iff {c : Char} (hc : isBlank c = false) {cs : List Char} :
    c ∈ trimEnd cs ↔ c ∈ cs := by
  obtain ⟨w, hw, hcs⟩ := exists_trimEnd_append_blankText cs
  have hcw : c ∉ w := fun h => by simp [hw c h] at hc
  conv_rhs => rw [hcs]
  simp [hcw]

theorem trimEnd_cons {c : Char} (hc : isBlank c = false) (cs : List Char) :
    trimEnd (c :: cs) = c :: trimEnd cs := by
  rw [trimEnd, trimEnd, List.reverse_cons, List.dropWhile_append]
  split
  next hnil =>
    rw [List.isEmpty_iff.1 hnil, List.dropWhile_cons_of_neg (by simp [hc])]
    rfl
  next => rw [List.reverse_append, List.reverse_singleton, List.singleton_append]

theorem trimEnd_append {w : List Char} (hw : BlankText w) (cs : List Char) :
    trimEnd (cs ++ w) = trimEnd cs := by
  have hback : ∀ c ∈ w.reverse, isBlank c = true := fun c hc => hw c (List.mem_reverse.1 hc)
  rw [trimEnd, List.reverse_append, List.dropWhile_append_of_pos hback, ← trimEnd]

theorem isBlank_getLast_trimEnd (cs : List Char) :
    ∀ c ∈ (trimEnd cs).getLast?, isBlank c = false := by
  intro c hc
  have hhead := List.head?_dropWhile_not isBlank cs.reverse
  rw [trimEnd, List.getLast?_reverse] at hc
  rw [Option.mem_def.1 hc] at hhead
  simpa using hhead

/-! ### Texts without blanks around them -/

theorem trimStart_eq_self {cs : List Char} (h : ∀ c ∈ cs.head?, isBlank c = false) :
    trimStart cs = cs := by
  cases cs with
  | nil => rfl
  | cons c rest => exact trimStart_cons (h c rfl) rest

theorem trimEnd_eq_self {cs : List Char} (h : ∀ c ∈ cs.getLast?, isBlank c = false) :
    trimEnd cs = cs := by
  rw [← List.head?_reverse] at h
  rw [trimEnd, ← trimStart, trimStart_eq_self h, List.reverse_reverse]

theorem trimStart_of_blankText {w : List Char} (hw : BlankText w) : trimStart w = [] :=
  List.dropWhile_eq_nil_iff.2 hw

/-! ### Blanks at both ends -/

/-- A text is blank and trimmed to nothing, or its first character that is no blank stays first. -/
theorem trim_cases (cs : List Char) :
    BlankText cs ∧ trim cs = [] ∨
      ∃ w c rest, BlankText w ∧ isBlank c = false ∧ cs = w ++ c :: rest ∧
        trim cs = c :: trimEnd rest := by
  obtain ⟨w, hw, hcs⟩ := exists_blankText_append_trimStart cs
  cases hstart : trimStart cs with
  | nil =>
    rw [hstart, List.append_nil] at hcs
    exact .inl ⟨hcs ▸ hw, by rw [trim, hstart]; rfl⟩
  | cons c rest =>
    have hc : isBlank c = false := by
      have hhead := List.head?_dropWhile_not isBlank cs
      rw [← trimStart, hstart] at hhead
      simpa using hhead
    rw [hstart] at hcs
    exact .inr ⟨w, c, rest, hw, hc, hcs, by rw [trim, hstart, trimEnd_cons hc]⟩

/-- What `trim` leaves is the text without the blanks around it. -/
theorem trims_trim (cs : List Char) : Trims cs (trim cs) := by
  rcases trim_cases cs with ⟨hblank, htrim⟩ | ⟨w, c, rest, hw, hc, hcs, htrim⟩
  · rw [htrim]
    refine ⟨⟨cs, [], hblank, blankText_nil, ?_⟩, nofun, nofun⟩
    rw [List.append_nil, List.append_nil]
  · rw [htrim]
    obtain ⟨after, hafter, hrest⟩ := exists_trimEnd_append_blankText rest
    refine ⟨⟨w, after, hw, hafter, ?_⟩, ?_, ?_⟩
    · rw [List.cons_append, ← hrest]
      exact hcs
    · rintro d ⟨⟩
      exact hc
    · rw [← trimEnd_cons hc]
      exact isBlank_getLast_trimEnd (c :: rest)

/-- **Trimming**: the text that `trim` leaves is the only one that is the whole text without the
blanks around it. -/
theorem trims_iff {cs v : List Char} : Trims cs v ↔ trim cs = v := by
  constructor
  · rintro ⟨⟨before, after, hbefore, hafter, rfl⟩, hfirst, hlast⟩
    rw [trim, trimStart_append hbefore]
    -- with nothing in the middle the blanks behind are taken off as if they were in front
    cases v with
    | nil => rw [List.nil_append, trimStart_of_blankText hafter]; rfl
    | cons c rest =>
      rw [List.cons_append, trimStart_cons (hfirst c rfl), ← List.cons_append,
        trimEnd_append hafter, trimEnd_eq_self hlast]
  · rintro rfl
    exact trims_trim cs

/-- Nothing is left of a text exactly if it is blank. -/
theorem trim_eq_nil_iff {cs : List Char} : trim cs = [] ↔ BlankText cs := by
  constructor
  · intro h
    obtain ⟨before, after, hbefore, hafter, hcs⟩ := (trims_iff.2 h).surrounded
    rw [hcs, List.nil_append]
    exact List.forall_mem_append.2 ⟨hbefore, hafter⟩
  · intro h
    rw [trim, trimStart_of_blankText h]
    rfl

end JournalSite.Text
