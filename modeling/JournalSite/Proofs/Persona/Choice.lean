import JournalSite.Proofs.Persona.SelectorMarkup
import JournalSite.Proofs.Runs

/-!
# The choice of a companion

The page keeps the personas on offer and the key that was chosen. The selector
keeps nothing: a click on one of its buttons hands the page a key, and the page is
drawn from what it keeps. Meanwhile the list on offer may change in any way, also so
that the chosen key names no persona any more, or several.

What is handed over by a step, and what the page keeps after it, is said by
`Personas.follow`; over a run, the chosen key is the last one that was handed over
since the choice was last taken back (`selected_runOn_follow`). What a reader sees of
the companions on the page, the pressed buttons and the prompt, is read from its
written form (`seenCompanions`), and agrees with the chosen persona in every state
(`seenCompanions_companionSection`, `selectedOption_eq_head?`).

**`companions_in_step`** puts the two together: through all steps the choice, the
buttons and the prompt agree.
-/

namespace JournalSite

open Markup

/-! ### Steps -/

/-- What can happen to the personas of a page. -/
inductive PersonaStep where
  /-- A click on the button with this index. -/
  | click (index : Nat)
  /-- The choice is taken back. -/
  | clear
  /-- Other personas are offered. -/
  | offer (options : List Persona)
  /-- One persona more is offered. -/
  | push (option : Persona)
  /-- One persona less is offered. -/
  | remove (index : Nat)
  deriving DecidableEq, Repr

namespace PersonaStep

/-- Whether the step takes the choice back. -/
def isClear : PersonaStep → Bool
  | clear => true
  | _ => false

end PersonaStep

/-- A step of the personas, seen from both sides. The answer to a step is the list of keys that the
page is handed in it. -/
abbrev PersonaMove := Move Personas PersonaStep (List String)

namespace Personas

/-- The keys that the page is handed in a step, and the personas after it. -/
def follow (p : Personas) : PersonaStep → List String × Personas
  | .click index => (PersonaSelector.clickedKeys p.options [index], p.click index)
  | .clear => ([], p.clear)
  | .offer options => ([], p.offer options)
  | .push option => ([], p.push option)
  | .remove index => ([], p.remove index)

/-- A click on a button hands over one key, which is noted behind the others. -/
theorem run_click (options : List Persona) (i : Nat) (keys : List String) :
    (PersonaSelector.click (m := StateM (List String)) options
      (fun key => modify (· ++ [key])) i).run keys =
        ((), keys ++ (options[i]?.map Persona.key).toList) := by
  cases h : options[i]? with
  | none =>
    simp only [PersonaSelector.click, h]
    exact congrArg _ (List.append_nil keys).symm
  | some option =>
    simp only [PersonaSelector.click, h]
    rfl

/-- Clicks hand over the keys of the personas they are on, one key each and in their order. -/
theorem clickedKeys_eq (options : List Persona) (clicks : List Nat) :
    PersonaSelector.clickedKeys options clicks =
      clicks.flatMap fun i => (options[i]?.map Persona.key).toList := by
  suffices h : ∀ keys, ((forM clicks (PersonaSelector.click (m := StateM (List String)) options
      fun key => modify (· ++ [key]))).run keys).2 =
        keys ++ clicks.flatMap fun i => (options[i]?.map Persona.key).toList from h []
  induction clicks with
  | nil => exact fun keys => (List.append_nil keys).symm
  | cons i clicks ih =>
    intro keys
    rw [List.forM_cons, StateT.run_bind, run_click]
    exact (ih _).trans (by simp)

/-- A click on the button of a persona hands over its key, once, whatever was chosen before. -/
theorem follow_click_of_eq_some {p : Personas} {i : Nat} {option : Persona}
    (h : p.options[i]? = some option) :
    p.follow (.click i) = ([option.key], ⟨p.options, some option.key⟩) := by
  simp only [follow, clickedKeys_eq, click, PersonaSelector.click, List.flatMap_singleton, h]
  rfl

/-- Where there is no button there is no click. -/
theorem follow_click_of_eq_none {p : Personas} {i : Nat} (h : p.options[i]? = none) :
    p.follow (.click i) = ([], p) := by
  simp only [follow, clickedKeys_eq, click, PersonaSelector.click, List.flatMap_singleton, h]
  rfl

/-- No key is handed over but by a click on a button. -/
theorem follow_eq_nil_of_not_click {p : Personas} {step : PersonaStep}
    (h : ∀ i option, step = .click i → p.options[i]? ≠ some option) : (p.follow step).1 = [] := by
  cases step with
  | click i => rw [follow_click_of_eq_none (Option.eq_none_iff_forall_ne_some.2 (h i · rfl))]
  | clear => rfl
  | offer options => rfl
  | push option => rfl
  | remove i => rfl

/-- Unless it takes the choice back, a step chooses the key that is handed over in it, and leaves
the choice as it was if there is none. -/
theorem selected_follow {p : Personas} {step : PersonaStep} (h : step.isClear = false) :
    (p.follow step).2.selected = (p.follow step).1.getLast?.or p.selected := by
  cases step with
  | click i =>
    cases hoption : p.options[i]? with
    | some option => rw [follow_click_of_eq_some hoption]; rfl
    | none => rw [follow_click_of_eq_none hoption]; rfl
  | clear => cases h
  | offer options => rfl
  | push option => rfl
  | remove i => rfl

/-- The keys that the page was handed since the choice was last taken back. -/
def keysSinceClear (run : List PersonaMove) : List String :=
  (run.rtakeWhile (!·.input.isClear)).flatMap Move.answer

/-- The chosen key is the last one that was handed over since the choice was last taken back. -/
theorem selected_runOn_follow (steps : List PersonaStep) :
    (runOn follow initial steps).2.selected =
      (keysSinceClear (moves follow initial steps)).getLast? := by
  induction steps using List.reverseRecOn with
  | nil => rfl
  | append_singleton steps step ih =>
    rw [runOn_append, runOn_cons, runOn_nil, moves_append, moves_cons, moves_nil, keysSinceClear]
    cases hclear : step.isClear with
    | true =>
      have hstep : step = .clear := by
        cases step <;> first | rfl | cases hclear
      rw [List.rtakeWhile_concat_neg (h := by simp [moveOn, hclear]), hstep]
      rfl
    | false =>
      rw [List.rtakeWhile_concat_pos (h := by simp [moveOn, hclear]), List.flatMap_append,
        List.flatMap_singleton, List.getLast?_append, ← keysSinceClear, ← ih]
      exact selected_follow hclear

end Personas

/-! ### What a reader sees of the companions -/

/-- What a reader sees of the companions. -/
structure SeenCompanions where
  /-- The texts of the paragraphs, of which there is one, the prompt. -/
  prompts : List String
  /-- Whether each button is pressed, in order. -/
  pressed : List Bool
  deriving DecidableEq, Repr

/-- Reads the companions of a page. -/
def seenCompanions (ps : List Piece) : SeenCompanions :=
  ⟨(elementsNamed "p" ps).map Element.text,
    (readButtons ps).map fun b => b.pressed == some "true"⟩

/-- The personas whose buttons are pressed, in order. -/
def pressedOptions (pressed : List Bool) (options : List Persona) : List Persona :=
  ((options.zip pressed).filter Prod.snd).map Prod.fst

theorem isClean_companionSection (p : Personas) : (companionSection p).isClean = true := by
  simp only [companionSection, isClean_append, isClean,
    PersonaSelector.isClean_markup p.options p.selected]
  rfl

/-- The selector has no paragraphs. -/
theorem named_p_markup (options : List Persona) (selected : Option String) :
    (PersonaSelector.markup options selected).named "p" = [] := by
  change (ofList (options.map (PersonaSelector.button selected))).named "p" ++ [] = _
  rw [named_ofList, List.append_nil, List.flatMap_map, List.flatMap_eq_nil_iff]
  exact fun p _ => rfl

/-- No paragraph and no button of the selector stands inside another. -/
theorem isFlat_markup (options : List Persona) (selected : Option String) {name : String}
    (hname : name = "p" ∨ name = "button") :
    (PersonaSelector.markup options selected).isFlat name = true := by
  have hbuttons : (ofList (options.map (PersonaSelector.button selected))).isFlat name = true := by
    rw [isFlat_ofList, List.all_map, List.all_eq_true]
    rintro o -
    rcases hname with rfl | rfl <;> rfl
  change (_ && ((ofList (options.map (PersonaSelector.button selected))).isFlat name && true)) = true
  rw [hbuttons]
  rcases hname with rfl | rfl <;> rfl

theorem isFlat_companionSection (p : Personas) {name : String}
    (hname : name = "p" ∨ name = "button") : (companionSection p).isFlat name = true := by
  simp only [companionSection, isFlat, isFlat_append, isFlat_markup p.options p.selected hname]
  rcases hname with rfl | rfl <;> rfl

theorem companionPrompt_ne_empty (p : Personas) : companionPrompt p ≠ "" := by
  intro h
  rw [companionPrompt] at h
  split at h <;> simp at h

/-- The one paragraph of the companions is the prompt. -/
theorem prompts_companionSection (p : Personas) :
    (elementsNamed "p" (companionSection p).pieces).map Element.text = [companionPrompt p] := by
  have hnamed : (companionSection p).named "p" =
      [([⟨"class", "journal-page__prompt"⟩], .text (companionPrompt p))] := by
    simp only [companionSection, named, named_append, named_p_markup]
    rfl
  exact texts_elementsNamed rfl (isClean_companionSection p) (isFlat_companionSection p (.inl rfl))
    hnamed (companionPrompt_ne_empty p)

/-- The buttons of the companions are those of the selector. -/
theorem readButtons_companionSection (p : Personas) :
    readButtons (companionSection p).pieces =
      p.options.map fun o => .expected (decide (p.selected = some o.key)) (shownTexts o) := by
  have hnamed : (companionSection p).named "button" =
      (PersonaSelector.markup p.options p.selected).named "button" := by
    simp only [companionSection, named, named_append]
    rfl
  rw [← PersonaSelector.readButtons_markup, readButtons, readButtons,
    elementsNamed_pieces rfl (isClean_companionSection p) (isFlat_companionSection p (.inr rfl)),
    hnamed, elementsNamed_pieces rfl (PersonaSelector.isClean_markup p.options p.selected)
      (isFlat_markup p.options p.selected (.inr rfl))]

/-- **What a reader sees of the companions**: the prompt, and the buttons of the personas with the
chosen key pressed. -/
theorem seenCompanions_companionSection (p : Personas) :
    seenCompanions (companionSection p).pieces =
      ⟨[companionPrompt p], pressedFlags p.options p.selected⟩ := by
  rw [seenCompanions, prompts_companionSection, readButtons_companionSection, List.map_map,
    pressedFlags]
  congr 1
  exact List.map_congr_left fun o _ => ReadButton.pressed_expected _ _

/-! ### The chosen persona and the pressed buttons -/

theorem pressedOptions_pressedFlags (p : Personas) :
    pressedOptions (pressedFlags p.options p.selected) p.options =
      p.options.filter fun o => decide (p.selected = some o.key) := by
  rw [pressedOptions, pressedFlags, ← List.map_prod_left_eq_zip, List.filter_map, List.map_map]
  exact List.map_id _

/-- The chosen persona is the first one whose button is pressed. -/
theorem selectedOption_eq_head? (p : Personas) :
    p.selectedOption = (pressedOptions (pressedFlags p.options p.selected) p.options).head? := by
  rw [pressedOptions_pressedFlags, List.head?_filter, Personas.selectedOption]
  cases p.selected with
  | none => exact (List.find?_eq_none.2 (by simp)).symm
  | some key => simp [eq_comm, beq_eq_decide]

/-- No persona is chosen exactly if no button is pressed. -/
theorem selectedOption_eq_none_iff (p : Personas) :
    p.selectedOption = none ↔ ∀ pressed ∈ pressedFlags p.options p.selected, pressed = false := by
  rw [selectedOption_eq_head?, pressedOptions_pressedFlags, List.head?_eq_none_iff,
    List.filter_eq_nil_iff, pressedFlags, List.forall_mem_map]
  simp

section

variable {p : Personas} (hkeys : (p.options.map Persona.key).Nodup)

include hkeys

/-- If the keys differ, one button is pressed at most. -/
theorem count_pressedFlags_le_one : (pressedFlags p.options p.selected).count true ≤ 1 := by
  have hflags : (pressedFlags p.options p.selected).count true =
      (p.options.map Persona.key).countP fun key => decide (p.selected = some key) := by
    rw [pressedFlags, List.count, List.countP_map, List.countP_map]
    refine List.countP_congr fun o _ => ?_
    simp
  rw [hflags]
  cases p.selected with
  | none => simp
  | some key =>
    have := List.nodup_iff_count_le_one.1 hkeys key
    simpa [List.count, beq_eq_decide, eq_comm] using this

/-- If the keys differ, the button of a persona with the chosen key is the only one pressed. -/
theorem pressedFlags_eq_true_iff {i : Nat} {o : Persona} (hi : p.options[i]? = some o)
    (hselected : p.selected = some o.key) (j : Nat) :
    (pressedFlags p.options p.selected)[j]? = some true ↔ j = i := by
  have hkey : (p.options.map Persona.key)[i]? = some o.key := by rw [List.getElem?_map, hi]; rfl
  rw [pressedFlags, List.getElem?_map, Option.map_eq_some_iff]
  constructor
  · rintro ⟨o', hj, ho'⟩
    have hkey' : (p.options.map Persona.key)[j]? = some o.key := by
      rw [List.getElem?_map, hj]
      exact (of_decide_eq_true ho').symm.trans hselected
    have hj' := (List.getElem?_eq_some_iff.1 hkey').1
    exact (List.getElem?_inj hj' hkeys).1 (hkey'.trans hkey.symm)
  · rintro rfl
    exact ⟨o, hi, decide_eq_true hselected⟩

/-- If the keys differ, a persona with the chosen key is the chosen one. -/
theorem selectedOption_eq_some {i : Nat} {o : Persona} (hi : p.options[i]? = some o)
    (hselected : p.selected = some o.key) : p.selectedOption = some o := by
  have hmem : o ∈ p.options := List.mem_of_getElem? hi
  rw [Personas.selectedOption, hselected, Option.bind_some]
  cases hfound : p.options.find? (·.key == o.key) with
  | none => exact absurd (List.find?_eq_none.1 hfound o hmem) (by simp)
  | some o' =>
    have hkey : o'.key = o.key := by simpa using List.find?_some hfound
    rw [List.inj_on_of_nodup_map hkeys (List.mem_of_find?_eq_some hfound) hmem hkey]

end

/-- **The companions agree**: what a reader sees of them is what the page keeps. -/
structure InStep (p : Personas) (seen : SeenCompanions) : Prop where
  /-- There is a button for each persona on offer, pressed if the persona has the chosen key. -/
  pressed : seen.pressed = p.options.map fun o => decide (p.selected = some o.key)
  /-- The chosen persona is that of the first pressed button. -/
  selectedOption : p.selectedOption = (pressedOptions seen.pressed p.options).head?
  /-- There is no chosen persona exactly if no button is pressed. -/
  none_iff : p.selectedOption = none ↔ ∀ pressed ∈ seen.pressed, pressed = false
  /-- The prompt is the picture and the description of the chosen persona, and an invitation to
  choose one if there is none. -/
  prompts : seen.prompts = [match p.selectedOption with
    | some o => o.emoji ++ " " ++ o.description
    | none => "Pick a companion to shape today's prompts."]

theorem inStep_companionSection (p : Personas) :
    InStep p (seenCompanions (companionSection p).pieces) := by
  rw [seenCompanions_companionSection]
  exact ⟨rfl, selectedOption_eq_head? p, selectedOption_eq_none_iff p, rfl⟩

/-- **The choice, the buttons and the prompt stay in step.** Through any steps from the built-in
companions, a click on a button hands the page the key of its persona, once, whatever was chosen
before, and leaves the list on offer as it is; no other step hands over a key. The chosen key is the
last one that was handed over since the choice was last taken back. What the page shows agrees with
it. If the keys on offer differ, one button is pressed at most, and after a click it is the one that
was clicked, whose persona is the chosen one and gives the prompt. -/
theorem companions_in_step (steps : List PersonaStep) :
    let run := moves Personas.follow .initial steps
    let p := (runOn Personas.follow .initial steps).2
    (∀ m ∈ run, ∀ i o, m.input = .click i → m.before.options[i]? = some o →
      m.answer = [o.key] ∧ m.after = ⟨m.before.options, some o.key⟩) ∧
    (∀ m ∈ run, (∀ i o, m.input = .click i → m.before.options[i]? ≠ some o) → m.answer = []) ∧
    p.selected = (Personas.keysSinceClear run).getLast? ∧
    ∃ ps, IsCut (companionSection p).render ps ∧ InStep p (seenCompanions ps) ∧
      ((p.options.map Persona.key).Nodup → (seenCompanions ps).pressed.count true ≤ 1 ∧
        ∀ before i o, steps = before ++ [.click i] →
          (runOn Personas.follow .initial before).2.options[i]? = some o →
            (∀ j, (seenCompanions ps).pressed[j]? = some true ↔ j = i) ∧
            p.selectedOption = some o ∧
            (seenCompanions ps).prompts = [o.emoji ++ " " ++ o.description]) := by
  intro run p
  refine ⟨?_, ?_, Personas.selected_runOn_follow steps, _,
    isCut_render (isClean_companionSection p), inStep_companionSection p, fun hkeys => ?_⟩
  · refine forall_mem_moves _ _ (fun q step i o hstep ho => ?_) steps
    cases hstep
    have hclick : q.follow (.click i) = _ := Personas.follow_click_of_eq_some ho
    exact ⟨congrArg Prod.fst hclick, congrArg Prod.snd hclick⟩
  · exact forall_mem_moves _ _ (fun q step => Personas.follow_eq_nil_of_not_click) steps
  · rw [seenCompanions_companionSection]
    refine ⟨count_pressedFlags_le_one hkeys, ?_⟩
    rintro before i o rfl ho
    have hp : p = ⟨(runOn Personas.follow .initial before).2.options, some o.key⟩ := by
      change (runOn Personas.follow .initial (before ++ [.click i])).2 = _
      rw [runOn_append, runOn_cons, Personas.follow_click_of_eq_some ho]
      rfl
    have hi : p.options[i]? = some o := hp ▸ ho
    have hselected : p.selected = some o.key := hp ▸ rfl
    have hoption := selectedOption_eq_some hkeys hi hselected
    exact ⟨pressedFlags_eq_true_iff hkeys hi hselected, hoption, by rw [companionPrompt, hoption]⟩

end JournalSite
