import JournalSite.Proofs.Boundary.PanelMessage
import JournalSite.Proofs.Journal.Selection

/-!
# A link cannot write markup into the entry

The fragment of an address is whatever the author of a link put there, and when it
names no day, a part of it is shown in the panel of the failure. It is kept there
while the entry is drawn again and again, until someone presses the button to try
again.

Whatever was drawn before and whatever the fragment is, the drawn entry has one of
two sequences of tags, that of a day's entry and that of the panel, and the message
in the panel reads as the failure says (**`drawn_entry_cut`**). The failure is that
of the first fragment, among those drawn since the last retry, that names no day
(`state_entryAfter`).
-/

namespace JournalSite

open Text Markup

/-! ### Drawing the entry again and again -/

/-- What is done to the entry of a mounted page. -/
inductive EntryStep where
  /-- The entry is drawn while the address has this fragment. -/
  | draw (hash : String)
  /-- The button to try again is pressed. -/
  | retry
  deriving DecidableEq, Repr

namespace EntryStep

/-- Whether the button is pressed. -/
def isRetry : EntryStep → Bool
  | draw _ => false
  | retry => true

/-- The fragment that the entry is drawn with. -/
def hash? : EntryStep → Option String
  | draw hash => some hash
  | retry => none

end EntryStep

/-- Draws the entry of a mounted page whose address has this fragment. -/
def drawEntry (v : BoundaryView) (hash : String) : Markup × BoundaryView :=
  v.drawPart (renderEntry (readSelection true hash).1)

/-- The boundary around the entry after one step. -/
def BoundaryView.entryStep (v : BoundaryView) : EntryStep → BoundaryView
  | .draw hash => (drawEntry v hash).2
  | .retry => v.retry

/-- The boundary around the entry after steps, from the first drawing of the page. -/
def entryAfter (steps : List EntryStep) : BoundaryView :=
  steps.foldl BoundaryView.entryStep .fresh

/-- The fragments that the entry was drawn with since the last retry. -/
def hashesSinceRetry (steps : List EntryStep) : List String :=
  (steps.rtakeWhile (!·.isRetry)).filterMap EntryStep.hash?

/-- The failure that a fragment comes to, if it names no day. -/
def hashFailure? (hash : String) : Option Failure :=
  match parseDailyHash hash with
  | .ok _ => none
  | .error error => some (.ofError error.message error.causes)

/-- The boundary that holds a failure, if there is one. -/
def Boundary.holding : Option Failure → Boundary
  | none => normal
  | some e => failed e

theorem hashNames_of_hashFailure?_eq_some {hash : String} {e : Failure}
    (h : hashFailure? hash = some e) : HashNames hash (.error e) := by
  have hnames := hashNames_parseDailyHash hash
  rw [hashFailure?] at h
  cases hparse : parseDailyHash hash with
  | ok d =>
    rw [hparse] at h
    cases h
  | error error =>
    rw [hparse] at h hnames
    cases h
    exact hnames

theorem exists_parse_of_hashFailure?_eq_none {hash : String} (h : hashFailure? hash = none) :
    ∃ d, parseDailyHash hash = .ok d ∧ HashNames hash (.ok d) := by
  have hnames := hashNames_parseDailyHash hash
  rw [hashFailure?] at h
  cases hparse : parseDailyHash hash with
  | ok d =>
    rw [hparse] at hnames
    exact ⟨d, rfl, hnames⟩
  | error error =>
    rw [hparse] at h
    cases h

/-- A failure that is held, or else that of the fragment, is drawn as its panel and held after. -/
theorem drawEntry_of_failure {v : BoundaryView} {held : Option Failure} {hash : String}
    {e : Failure} (hv : v.state = .holding held) (he : held.or (hashFailure? hash) = some e) :
    (drawEntry v hash).1 = failurePanel e ∧ (drawEntry v hash).2.state = .failed e := by
  obtain ⟨state, log⟩ := v
  subst hv
  cases held with
  | some held =>
    cases he
    rw [drawEntry, Boundary.holding, BoundaryView.drawPart_failed]
    exact ⟨rfl, rfl⟩
  | none =>
    rw [drawEntry, readSelection_true, Boundary.holding, BoundaryView.drawPart_normal]
    rw [Option.none_or, hashFailure?] at he
    cases hparse : parseDailyHash hash with
    | ok d =>
      rw [hparse] at he
      cases he
    | error error =>
      rw [hparse] at he
      cases he
      exact ⟨rfl, rfl⟩

/-- If no failure is held and the fragment names a day, the entry of the day is drawn. -/
theorem drawEntry_of_day {v : BoundaryView} {hash : String} {d : Day} (hv : v.state = .normal)
    (hd : parseDailyHash hash = .ok d) :
    (drawEntry v hash).1 = dayEntry d ∧ (drawEntry v hash).2.state = .normal := by
  obtain ⟨state, log⟩ := v
  subst hv
  rw [drawEntry, readSelection_true, hd, BoundaryView.drawPart_normal]
  exact ⟨rfl, rfl⟩

/-- The boundary holds the failure of the first fragment since the last retry that names no day. -/
theorem state_entryAfter (steps : List EntryStep) :
    (entryAfter steps).state = .holding ((hashesSinceRetry steps).findSome? hashFailure?) := by
  induction steps using List.reverseRecOn with
  | nil => rfl
  | append_singleton steps step ih =>
    rw [entryAfter, List.foldl_concat]
    cases step with
    | retry =>
      rw [hashesSinceRetry, List.rtakeWhile_concat_neg (h := by simp [EntryStep.isRetry])]
      rfl
    | draw hash =>
      have hsince : hashesSinceRetry (steps ++ [.draw hash]) = hashesSinceRetry steps ++ [hash] := by
        rw [hashesSinceRetry, List.rtakeWhile_concat_pos (h := by simp [EntryStep.isRetry])]
        simp [hashesSinceRetry, EntryStep.hash?]
      rw [hsince, List.findSome?_append, List.findSome?_singleton]
      cases hfailure : ((hashesSinceRetry steps).findSome? hashFailure?).or (hashFailure? hash) with
      | some e => exact (drawEntry_of_failure ih hfailure).2
      | none =>
        rw [Option.or_eq_none_iff] at hfailure
        obtain ⟨d, hd, -⟩ := exists_parse_of_hashFailure?_eq_none hfailure.2
        rw [hfailure.1] at ih
        exact (drawEntry_of_day ih hd).2

/-! ### What the panel says -/

/-- A message that begins with no blank loses the blanks at its end. -/
theorem panelMessage_of_trimStart {e : Failure} {c : Char} {rest : List Char}
    (h : e.message.toList = c :: rest) (hc : isBlank c = false) :
    e.panelMessage = String.ofList (trimEnd e.message.toList) := by
  have htrim : trim e.message.toList = trimEnd e.message.toList := by
    rw [trim, h, trimStart_cons hc]
  have hne : trimEnd e.message.toList ≠ [] := by
    rw [h, trimEnd_cons hc]
    exact List.cons_ne_nil c _
  rw [Failure.panelMessage, htrim, if_neg (by simpa using hne), trimmed, htrim]

/-- The panel says that no day is selected, or which date is not valid. -/
theorem panelMessage_of_hashNames {hash : String} {e : Failure} (h : HashNames hash (.error e)) :
    (∀ date, ¬ IsDailyHash hash date) ∧ e.panelMessage = "No journal day selected" ∨
      ∃ date, IsDailyHash hash date ∧ e.panelMessage =
        String.ofList (trimEnd ("Not a valid journal date: " ++ date).toList) := by
  cases h with
  | notDaily hno => exact .inl ⟨hno, rfl⟩
  | invalidDate hdaily hfault =>
    refine .inr ⟨_, hdaily, ?_⟩
    exact panelMessage_of_trimStart (c := 'N') (by rw [String.toList_append]; rfl) (by decide)

/-! ### What is drawn -/

/-- **A link cannot write markup into the entry.** Whatever was drawn before, and whatever the
fragment is, the drawn entry has the tags of a day's entry or those of the panel, and no other
angle brackets. It is the entry of a day if every fragment since the last retry names one. If not,
the paragraph of the panel reads as the message of the failure that is held, which is that of the
first such fragment: that no day is selected, or the text in the place of its date, without the
blanks at the end. -/
theorem drawn_entry_cut (steps : List EntryStep) (hash : String) :
    let drawn := drawEntry (entryAfter steps) hash
    ∃ ps, IsCut drawn.1.render ps ∧
      ((tags ps = entryTags ∧ drawn.2.state = .normal ∧
          ∀ drawnHash ∈ hashesSinceRetry steps ++ [hash], ∃ d, HashNames drawnHash (.ok d)) ∨
        ∃ e, tags ps = panelTags ∧ drawn.2.state = .failed e ∧
          (elementsNamed "p" ps).map Element.text = [e.panelMessage] ∧
          ∃ before bad after, hashesSinceRetry steps ++ [hash] = before ++ bad :: after ∧
            (∀ drawnHash ∈ before, ∃ d, HashNames drawnHash (.ok d)) ∧
            ((∀ date, ¬ IsDailyHash bad date) ∧ e.panelMessage = "No journal day selected" ∨
              ∃ date, IsDailyHash bad date ∧ e.panelMessage =
                String.ofList (trimEnd ("Not a valid journal date: " ++ date).toList))) := by
  intro drawn
  have hstate := state_entryAfter steps
  have hfind : (hashesSinceRetry steps ++ [hash]).findSome? hashFailure? =
      ((hashesSinceRetry steps).findSome? hashFailure?).or (hashFailure? hash) := by
    rw [List.findSome?_append, List.findSome?_singleton]
  cases hfailure : (hashesSinceRetry steps ++ [hash]).findSome? hashFailure? with
  | none =>
    have hnone := List.findSome?_eq_none_iff.1 hfailure
    obtain ⟨d, hd, -⟩ := exists_parse_of_hashFailure?_eq_none (hnone hash (by simp))
    rw [hfind, Option.or_eq_none_iff] at hfailure
    rw [hfailure.1] at hstate
    obtain ⟨hpart, hafter⟩ := drawEntry_of_day hstate hd
    refine ⟨(dayEntry d).pieces, ?_, .inl ⟨tags_dayEntry d, hafter, fun drawnHash hmem => ?_⟩⟩
    · rw [hpart]
      exact isCut_render rfl
    · obtain ⟨d', -, hnames⟩ := exists_parse_of_hashFailure?_eq_none (hnone drawnHash hmem)
      exact ⟨d', hnames⟩
  | some e =>
    obtain ⟨before, bad, after, hsplit, hbad, hbefore⟩ := List.findSome?_eq_some_iff.1 hfailure
    rw [hfind] at hfailure
    obtain ⟨hpart, hafter⟩ := drawEntry_of_failure hstate hfailure
    refine ⟨(failurePanel e).pieces, ?_, .inr ⟨e, tags_failurePanel e, hafter,
      text_failurePanel e, before, bad, after, hsplit, fun drawnHash hmem => ?_, ?_⟩⟩
    · rw [hpart]
      exact isCut_render rfl
    · obtain ⟨d', -, hnames⟩ := exists_parse_of_hashFailure?_eq_none (hbefore drawnHash hmem)
      exact ⟨d', hnames⟩
    · exact panelMessage_of_hashNames (hashNames_of_hashFailure?_eq_some hbad)

end JournalSite
