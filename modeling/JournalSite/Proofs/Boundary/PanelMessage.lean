import JournalSite.Boundary.View
import JournalSite.Proofs.Markup.Pieces
import JournalSite.Proofs.Text.Trim

/-!
# What the panel of a failure says

Whoever looks at the panel in place of a part of the page wants to read what went wrong.
The panel shows the message of the failure without the blanks around it, and the generic
message if there is nothing but blanks (`panelMessage_cases`).

So there is always something to read, and no blank stands at either end of it
(**`panelMessage_never_blank`**). A message of that kind is shown as it is
(`panelMessage_of_visibleEnds`): it makes no difference to a message to go through a panel
once more, with whatever context. The paragraph of the panel holds the message and nothing
else; an empty one would have been written as a space (`text_failurePanel`). So the panel in
writing reads as a panel of this failure (`readsAsPanel_failurePanel`).
-/

namespace JournalSite

open Text Markup

/-- A text that begins and ends with something to see. -/
structure HasVisibleEnds (s : String) : Prop where
  /-- The first character is no blank. -/
  first : ∃ c ∈ s.toList.head?, isBlank c = false
  /-- The last character is no blank. -/
  last : ∃ c ∈ s.toList.getLast?, isBlank c = false

theorem HasVisibleEnds.ne_empty {s : String} (h : HasVisibleEnds s) : s ≠ "" := by
  rintro rfl
  obtain ⟨c, hc, -⟩ := h.first
  cases hc

/-- Of a text with something to see at its ends trimming takes nothing off. -/
theorem HasVisibleEnds.trims {s : String} (h : HasVisibleEnds s) : Trims s.toList s.toList := by
  obtain ⟨c, hfirst, hc⟩ := h.first
  obtain ⟨d, hlast, hd⟩ := h.last
  refine ⟨⟨[], [], blankText_nil, blankText_nil, by simp⟩, ?_, ?_⟩
  · intro c' hc'
    cases hfirst.symm.trans hc'
    exact hc
  · intro d' hd'
    cases hlast.symm.trans hd'
    exact hd

/-- What trimming leaves, if it leaves anything, has something to see at its ends. -/
theorem hasVisibleEnds_of_trims {cs : List Char} {s : String} (h : Trims cs s.toList)
    (hne : s.toList ≠ []) : HasVisibleEnds s where
  first := ⟨s.toList.head hne, List.head?_eq_some_head hne,
    h.first _ (List.head?_eq_some_head hne)⟩
  last := ⟨s.toList.getLast hne, List.getLast?_eq_some_getLast hne,
    h.last _ (List.getLast?_eq_some_getLast hne)⟩

theorem hasVisibleEnds_genericFailureMessage : HasVisibleEnds genericFailureMessage where
  first := ⟨'A', rfl, by decide⟩
  last := ⟨'.', rfl, by decide⟩

/-! ### What the panel says -/

/-- A message is blank and the panel says the generic one, or the panel says what is left of it
without the blanks around it. -/
theorem panelMessage_cases (e : Failure) :
    BlankText e.message.toList ∧ e.panelMessage = genericFailureMessage ∨
      ¬BlankText e.message.toList ∧ Trims e.message.toList e.panelMessage.toList := by
  rw [Failure.panelMessage]
  split_ifs with h
  · rw [List.isEmpty_iff, trim_eq_nil_iff] at h
    exact .inl ⟨h, rfl⟩
  · rw [List.isEmpty_iff, trim_eq_nil_iff] at h
    refine .inr ⟨h, ?_⟩
    rw [toList_trimmed]
    exact trims_trim e.message.toList

theorem hasVisibleEnds_panelMessage (e : Failure) : HasVisibleEnds e.panelMessage := by
  rcases panelMessage_cases e with ⟨-, hgeneric⟩ | ⟨hnot, htrims⟩
  · rw [hgeneric]
    exact hasVisibleEnds_genericFailureMessage
  · refine hasVisibleEnds_of_trims htrims fun hnil => hnot ?_
    rw [hnil] at htrims
    exact trim_eq_nil_iff.1 (trims_iff.1 htrims)

theorem panelMessage_ne_empty (e : Failure) : e.panelMessage ≠ "" :=
  (hasVisibleEnds_panelMessage e).ne_empty

/-- A message that is not blank and is some text with blanks around it is shown as that text. -/
theorem panelMessage_of_trims {e : Failure} {s : String} (h : Trims e.message.toList s.toList)
    (hne : s ≠ "") : e.panelMessage = s := by
  rw [trims_iff] at h
  rcases panelMessage_cases e with ⟨hblank, -⟩ | ⟨-, htrims⟩
  · rw [trim_eq_nil_iff.2 hblank] at h
    exact absurd (String.toList_eq_nil_iff.1 h.symm) hne
  · rw [← String.toList_inj, ← trims_iff.1 htrims, h]

/-- A message with something to see at its ends is shown as it is. -/
theorem panelMessage_of_visibleEnds {e : Failure} (h : HasVisibleEnds e.message) :
    e.panelMessage = e.message :=
  panelMessage_of_trims h.trims h.ne_empty

/-- The generic message is shown in place of a blank one, and for a message that says the same. -/
theorem panelMessage_eq_generic_iff (e : Failure) :
    e.panelMessage = genericFailureMessage ↔
      BlankText e.message.toList ∨ Trims e.message.toList genericFailureMessage.toList := by
  constructor
  · intro h
    rcases panelMessage_cases e with ⟨hblank, -⟩ | ⟨-, htrims⟩
    · exact .inl hblank
    · rw [h] at htrims
      exact .inr htrims
  · rintro (hblank | htrims)
    · rcases panelMessage_cases e with ⟨-, hgeneric⟩ | ⟨hnot, -⟩
      · exact hgeneric
      · exact absurd hblank hnot
    · exact panelMessage_of_trims htrims hasVisibleEnds_genericFailureMessage.ne_empty

/-! ### What a reader sees of the panel -/

/-- The tags of the panel of a failure. -/
def panelTags : List String :=
  ["<div role=\"alert\" class=\"render-boundary\">", "<h2 class=\"render-boundary__heading\">",
    "</h2>", "<p class=\"render-boundary__message\">", "</p>",
    "<button class=\"btn render-boundary__retry\">", "</button>", "</div>"]

/-- What a reader sees of the panel of the failure `e`. -/
structure SeesPanel (ps : List Piece) (e : Failure) : Prop where
  /-- There are the tags of a panel, and no others. -/
  tags : tags ps = panelTags
  /-- The heading says that something is wrong. -/
  heading : (elementsNamed "h2" ps).map Element.text = ["Something went wrong"]
  /-- The paragraph is the message. -/
  message : (elementsNamed "p" ps).map Element.text = [e.panelMessage]
  /-- The button offers to try again. -/
  button : (elementsNamed "button" ps).map Element.text = ["Try again"]

/-- A page in writing that reads as the panel of the failure `e`. -/
def ReadsAsPanel (html : String) (e : Failure) : Prop := ∃ ps, IsCut html ps ∧ SeesPanel ps e

theorem tags_failurePanel (e : Failure) : tags (failurePanel e).pieces = panelTags := by
  rw [tags_pieces]
  rfl

/-- There is one paragraph in the panel, and its text is the message. -/
theorem text_failurePanel (e : Failure) :
    (elementsNamed "p" (failurePanel e).pieces).map Element.text = [e.panelMessage] :=
  texts_elementsNamed rfl rfl rfl rfl (panelMessage_ne_empty e)

theorem readsAsPanel_failurePanel (e : Failure) : ReadsAsPanel (failurePanel e).render e := by
  refine ⟨(failurePanel e).pieces, isCut_render rfl, tags_failurePanel e, ?_,
    text_failurePanel e, ?_⟩
  · exact texts_elementsNamed rfl rfl rfl rfl (by decide)
  · exact texts_elementsNamed rfl rfl rfl rfl (by decide)

/-- **The panel is never blank.** Whatever the failure is, its panel has a message that begins and
ends with something to see, and that is the text of the only paragraph of the panel. It is what the
message of the failure is without the blanks around it, or the generic message; the generic message
exactly if the message of the failure is blank, or is itself the generic one with blanks around it.
A failure whose message is this one, with a context or none, is shown with the same message. -/
theorem panelMessage_never_blank (e : Failure) :
    e.panelMessage ≠ "" ∧ HasVisibleEnds e.panelMessage ∧
      (elementsNamed "p" (failurePanel e).pieces).map Element.text = [e.panelMessage] ∧
      (Trims e.message.toList e.panelMessage.toList ∨ e.panelMessage = genericFailureMessage) ∧
      (e.panelMessage = genericFailureMessage ↔
        BlankText e.message.toList ∨ Trims e.message.toList genericFailureMessage.toList) ∧
      ∀ context, (Failure.mk e.panelMessage context).panelMessage = e.panelMessage := by
  refine ⟨panelMessage_ne_empty e, hasVisibleEnds_panelMessage e, text_failurePanel e, ?_,
    panelMessage_eq_generic_iff e, fun context => ?_⟩
  · rcases panelMessage_cases e with ⟨-, hgeneric⟩ | ⟨-, htrims⟩
    · exact .inr hgeneric
    · exact .inl htrims
  · have hends : HasVisibleEnds (Failure.mk e.panelMessage context).message :=
      hasVisibleEnds_panelMessage e
    exact panelMessage_of_visibleEnds hends

example : Failure.panelMessage ⟨" \n\u3000", none⟩ = "An unexpected error occurred." := by decide

end JournalSite
