import JournalSite.Journal.Page
import JournalSite.Proofs.Markup.Pieces

/-!
# The buttons of the persona selector are read back

The personas on offer come from outside, and their texts may hold anything: markup,
escapes, the markers of the page. Nevertheless a reader of the written selector
(`readButtons`) finds one button for each persona, in order, pressed if the persona
has the chosen key, with the three texts of the persona on it
(`readButtons_markup`). The tags of the selector, and those of the whole page, say
which buttons are pressed and nothing else (`tagTexts_markup`,
`tagTexts_journalPage`).

**`selector_readBack`** puts this together: selectors that are written in the same
way have as many buttons, pressed in the same places, with the same texts.
-/

namespace JournalSite

open Markup

/-! ### What a reader finds -/

/-- A button of the selector as a reader finds it. -/
structure ReadButton where
  /-- The attribute that says whether the button is pressed. -/
  pressed : Option String
  /-- The style classes of the button. -/
  styleClass : Option String
  /-- The texts in the spans on the button. -/
  texts : List String
  deriving DecidableEq, Repr

/-- Reads the buttons of a page. -/
def readButtons (ps : List Piece) : List ReadButton :=
  (elementsNamed "button" ps).map fun b =>
    ⟨b.attribute? "aria-pressed", b.attribute? "class",
      (elementsNamed "span" b.content).map Element.text⟩

/-- The texts of a persona as they are shown on its button. -/
def shownTexts (p : Persona) : List String :=
  [shownText p.emoji, shownText p.label, shownText p.description]

/-- Which of the personas on offer have the chosen key. -/
def pressedFlags (options : List Persona) (selected : Option String) : List Bool :=
  options.map fun p => decide (selected = some p.key)

/-- A pressed button with these texts, or one that is not pressed. -/
def ReadButton.expected (pressed : Bool) (texts : List String) : ReadButton :=
  if pressed then ⟨some "true", some "persona-option persona-option--selected", texts⟩
  else ⟨some "false", some "persona-option", texts⟩

theorem ReadButton.pressed_expected (pressed : Bool) (texts : List String) :
    ((ReadButton.expected pressed texts).pressed == some "true") = pressed := by
  cases pressed <;> rfl

namespace PersonaSelector

theorem isPressed_eq (p : Persona) (selected : Option String) :
    isPressed p selected = decide (selected = some p.key) := by
  rw [isPressed, beq_eq_decide]

/-! ### The buttons -/

/-- The attributes of a button. -/
def buttonAttributes (pressed : Bool) : List Attribute :=
  [⟨"type", "button"⟩, ⟨"aria-pressed", if pressed then "true" else "false"⟩,
    ⟨"class", buttonClass pressed⟩]

theorem isClean_button (selected : Option String) (p : Persona) :
    (button selected p).isClean = true := by
  have htexts : (buttonTexts p).isClean = true := rfl
  simp [button, isClean, isCleanName, htexts]

/-- The selector has clean names, whatever the personas are. -/
theorem isClean_markup (options : List Persona) (selected : Option String) :
    (markup options selected).isClean = true := by
  have hbuttons : (ofList (options.map (button selected))).isClean = true := by
    rw [isClean_ofList, List.all_map, List.all_eq_true]
    exact fun p _ => isClean_button selected p
  change (_ && ((ofList (options.map (button selected))).isClean && true)) = true
  rw [hbuttons]
  rfl

/-- The buttons of the selector are those of the personas, and none stands inside another. -/
theorem elementsNamed_markup (options : List Persona) (selected : Option String) :
    elementsNamed "button" (markup options selected).pieces =
      options.map fun p => ⟨openingChars "button" (buttonAttributes (isPressed p selected)),
        (buttonTexts p).pieces⟩ := by
  have hflat : (markup options selected).isFlat "button" = true := by
    have hbuttons : (ofList (options.map (button selected))).isFlat "button" = true := by
      rw [isFlat_ofList, List.all_map, List.all_eq_true]
      exact fun p _ => rfl
    change (_ && ((ofList (options.map (button selected))).isFlat "button" && true)) = true
    rw [hbuttons]
    rfl
  have hnamed : (markup options selected).named "button" =
      options.map fun p => (buttonAttributes (isPressed p selected), buttonTexts p) := by
    change (ofList (options.map (button selected))).named "button" ++ [] = _
    rw [named_ofList, List.append_nil, List.flatMap_map, List.map_eq_flatMap]
    rfl
  rw [elementsNamed_pieces rfl (isClean_markup options selected) hflat, hnamed, List.map_map]
  rfl

/-- The texts on a button read as they are shown. -/
theorem texts_buttonTexts (p : Persona) :
    (elementsNamed "span" (buttonTexts p).pieces).map Element.text = shownTexts p := by
  have hnamed : (buttonTexts p).named "span" =
      [([⟨"aria-hidden", "true"⟩, ⟨"class", "persona-option__emoji"⟩], .text p.emoji),
        ([⟨"class", "persona-option__label"⟩], .text p.label),
        ([⟨"class", "persona-option__description"⟩], .text p.description)] := rfl
  rw [elementsNamed_pieces rfl rfl rfl, hnamed]
  simp only [List.map_cons, List.map_nil, text_pieces_text, shownTexts]

/-- The buttons of the selector read as they are to be: one for each persona, in order. -/
theorem readButtons_markup (options : List Persona) (selected : Option String) :
    readButtons (markup options selected).pieces =
      options.map fun p => .expected (decide (selected = some p.key)) (shownTexts p) := by
  rw [readButtons, elementsNamed_markup, List.map_map]
  refine List.map_congr_left fun p _ => ?_
  rw [Function.comp_apply, texts_buttonTexts, isPressed_eq]
  cases decide (selected = some p.key) <;> rfl

/-! ### The tags -/

/-- The tags of a button. -/
def buttonTags (pressed : Bool) : List String :=
  [if pressed then
      "<button type=\"button\" aria-pressed=\"true\" class=\"" ++
        "persona-option persona-option--selected\">"
    else "<button type=\"button\" aria-pressed=\"false\" class=\"persona-option\">",
    "<span aria-hidden=\"true\" class=\"persona-option__emoji\">", "</span>",
    "<span class=\"persona-option__label\">", "</span>",
    "<span class=\"persona-option__description\">", "</span>", "</button>"]

/-- The tags of the selector. -/
def selectorTags (flags : List Bool) : List String :=
  "<div role=\"group\" class=\"persona-selector\">" ::
    (flags.flatMap buttonTags ++ ["<!>", "</div>"])

/-- The tags of the selector say which buttons are pressed, and nothing else. -/
theorem tagTexts_markup (options : List Persona) (selected : Option String) :
    (markup options selected).tagTexts = selectorTags (pressedFlags options selected) := by
  have hbutton : ∀ p,
      (button selected p).tagTexts = buttonTags (decide (selected = some p.key)) := by
    intro p
    rw [← isPressed_eq]
    change String.ofList (openingTag "button" (buttonAttributes (isPressed p selected))) :: _ = _
    cases isPressed p selected <;> rfl
  change _ :: ((ofList (options.map (button selected))).tagTexts ++ ["<!>"] ++ ["</div>"]) = _
  rw [tagTexts_ofList, List.flatMap_map, List.append_assoc, selectorTags, pressedFlags,
    List.flatMap_map]
  simp only [hbutton]
  rfl

end PersonaSelector

/-- The tags of the page in front of the selector. -/
def pageTagsBefore : List String :=
  ["<div class=\"layout-shell\" style=\"" ++
      "margin: -1rem -1rem 0; min-height: 100vh; height: 100vh;\">",
    "<main class=\"journal-page\">", "<header class=\"journal-page__header\">", "<!>",
    "<span class=\"status-pill status-pill--neutral\">", "</span>", "</header>",
    "<article aria-busy=\"true\" class=\"journal-entry journal-entry--pending\">", "</article>",
    "<section class=\"journal-page__companion\">", "<h2>", "</h2>",
    "<p class=\"journal-page__prompt\">", "</p>"]

/-- The tags of the page behind the selector. -/
def pageTagsAfter : List String :=
  ["</section>", "</main>", "<footer class=\"site-footer\">", "<nav class=\"site-footer__links\">",
    "<a href=\"/terms\" rel=\"external\" class=\"site-footer__link\">", "</a>",
    "<a href=\"/privacy\" rel=\"external\" class=\"site-footer__link\">", "</a>",
    "<a href=\"/refund-policy\" rel=\"external\" class=\"site-footer__link\">", "</a>",
    "<!>", "</nav>",
    "<a href=\"mailto:support@daybook.app\" class=\"site-footer__contact\">", "</a>",
    "<p class=\"site-footer__brand\">", "</p>", "</footer>", "</div>"]

/-- The tags of the page. -/
def pageTags (flags : List Bool) : List String :=
  pageTagsBefore ++ (PersonaSelector.selectorTags flags ++ pageTagsAfter)

/-- The page has clean names, whatever the personas are. -/
theorem isClean_journalPage (personas : Personas) : (journalPage personas).isClean = true := by
  have hheader : (pageHeader loadingStatus).isClean = true := rfl
  have hentry : (guarded (renderEntry .pending)).isClean = true := rfl
  have hfooter : siteFooter.isClean = true := rfl
  have hselector := PersonaSelector.isClean_markup personas.options personas.selected
  simp only [journalPage, layoutShell, companionSection, isClean_append, isClean, hheader, hentry,
    hfooter, hselector]
  rfl

/-- The tags of the page say which buttons are pressed, and nothing else. -/
theorem tagTexts_journalPage (options : List Persona) (selected : Option String) :
    (journalPage ⟨options, selected⟩).tagTexts = pageTags (pressedFlags options selected) := by
  have hpage : (journalPage ⟨options, selected⟩).tagTexts =
      pageTagsBefore ++ ((PersonaSelector.markup options selected).tagTexts ++ pageTagsAfter) := by
    simp only [journalPage, layoutShell, companionSection, tagTexts_append, tagTexts,
      List.append_assoc, List.cons_append]
    rfl
  rw [hpage, PersonaSelector.tagTexts_markup, pageTags]

/-! ### What the writing of a selector tells -/

namespace PersonaSelector

/-- Buttons that are pressed alike and show the same texts are written in the same way. -/
theorem chars_button_eq {p q : Persona} {selected selected' : Option String}
    (hpressed : decide (selected = some p.key) = decide (selected' = some q.key))
    (htexts : shownTexts p = shownTexts q) :
    (button selected p).chars = (button selected' q).chars := by
  simp only [shownTexts, List.cons.injEq, and_true] at htexts
  obtain ⟨hemoji, hlabel, hdescription⟩ := htexts
  have hbuttonTexts : (buttonTexts p).chars = (buttonTexts q).chars := by
    simp only [buttonTexts, chars_append, chars, textChars_eq, hemoji, hlabel, hdescription]
  rw [button, button, chars, chars, isPressed_eq, isPressed_eq, hpressed, hbuttonTexts]

theorem flatMap_chars_buttons_eq {options options' : List Persona}
    {selected selected' : Option String}
    (hflags : pressedFlags options selected = pressedFlags options' selected')
    (htexts : options.map shownTexts = options'.map shownTexts) :
    (options.map (button selected)).flatMap chars =
      (options'.map (button selected')).flatMap chars := by
  induction options generalizing options' with
  | nil =>
    cases options' with
    | nil => rfl
    | cons q options' => cases hflags
  | cons p options ih =>
    cases options' with
    | nil => cases hflags
    | cons q options' =>
      simp only [pressedFlags, List.map_cons, List.cons.injEq] at hflags htexts
      rw [List.map_cons, List.flatMap_cons, List.map_cons, List.flatMap_cons,
        chars_button_eq hflags.1 htexts.1, ih hflags.2 htexts.2]

/-- The buttons that are read tell which are pressed and what they show. -/
theorem eq_of_readButtons_eq {options options' : List Persona} {selected selected' : Option String}
    (h : readButtons (markup options selected).pieces =
      readButtons (markup options' selected').pieces) :
    pressedFlags options selected = pressedFlags options' selected' ∧
      options.map shownTexts = options'.map shownTexts := by
  have htexts : ∀ pressed texts, (ReadButton.expected pressed texts).texts = texts := by
    intro pressed texts
    cases pressed <;> rfl
  rw [readButtons_markup, readButtons_markup] at h
  constructor
  · have := congrArg (List.map fun b => b.pressed == some "true") h
    simpa only [pressedFlags, List.map_map, Function.comp_def, ReadButton.pressed_expected] using
      this
  · have := congrArg (List.map ReadButton.texts) h
    simpa only [List.map_map, Function.comp_def, htexts] using this

/-- Selectors are written in the same way exactly if their buttons are pressed alike and show the
same texts. -/
theorem render_markup_eq_iff {options options' : List Persona}
    {selected selected' : Option String} :
    (markup options selected).render = (markup options' selected').render ↔
      pressedFlags options selected = pressedFlags options' selected' ∧
        options.map shownTexts = options'.map shownTexts := by
  constructor
  · intro h
    have hcut := isCut_render (isClean_markup options selected)
    have hcut' := isCut_render (isClean_markup options' selected')
    rw [h] at hcut
    exact eq_of_readButtons_eq (congrArg readButtons (hcut.unique hcut'))
  · rintro ⟨hflags, htexts⟩
    have hchars : (ofList (options.map (button selected))).chars =
        (ofList (options'.map (button selected'))).chars := by
      rw [chars_ofList, chars_ofList, flatMap_chars_buttons_eq hflags htexts]
    rw [render, render, markup, markup, listed, listed, chars, chars, chars_append, chars_append,
      hchars]

end PersonaSelector

/-- **The selector is read back.** The written selector is cut into pieces in which a reader finds
one button for each persona, in order: pressed, with the class of a selected one, if the persona has
the chosen key, and else not pressed and plain, with the three texts of the persona on it. The tags
of the selector and those of the whole page follow from which buttons are pressed, whatever the
texts are. Two selectors are written in the same way exactly if they have as many buttons, pressed
alike and with the same texts, where an empty text and a space are the same. -/
theorem selector_readBack (options : List Persona) (selected : Option String) :
    (∃ ps, IsCut (PersonaSelector.markup options selected).render ps ∧
      readButtons ps = options.map (fun p =>
        if selected = some p.key then
          ⟨some "true", some "persona-option persona-option--selected", shownTexts p⟩
        else ⟨some "false", some "persona-option", shownTexts p⟩) ∧
      tags ps = PersonaSelector.selectorTags (pressedFlags options selected)) ∧
    (∃ ps, IsCut (journalPage ⟨options, selected⟩).render ps ∧
      tags ps = pageTags (pressedFlags options selected)) ∧
    ∀ options' selected', (PersonaSelector.markup options selected).render =
        (PersonaSelector.markup options' selected').render ↔
      options.length = options'.length ∧
        pressedFlags options selected = pressedFlags options' selected' ∧
        options.map shownTexts = options'.map shownTexts := by
  refine ⟨⟨_, isCut_render (PersonaSelector.isClean_markup options selected), ?_, ?_⟩,
    ⟨_, isCut_render (isClean_journalPage _), ?_⟩, fun options' selected' => ?_⟩
  · rw [PersonaSelector.readButtons_markup]
    refine List.map_congr_left fun p _ => ?_
    by_cases h : selected = some p.key
    · rw [if_pos h, decide_eq_true h]
      rfl
    · rw [if_neg h, decide_eq_false h]
      rfl
  · rw [tags_pieces, PersonaSelector.tagTexts_markup]
  · rw [tags_pieces, tagTexts_journalPage]
  · rw [PersonaSelector.render_markup_eq_iff]
    constructor
    · rintro ⟨hflags, htexts⟩
      have hlength := congrArg List.length htexts
      rw [List.length_map, List.length_map] at hlength
      exact ⟨hlength, hflags, htexts⟩
    · exact And.right

end JournalSite
