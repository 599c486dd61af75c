import JournalSite.Markup
import JournalSite.Persona.Basic

/-!
# The persona selector

The selector draws a button for each persona on offer. A button is pressed when
its persona has the chosen key, so personas that share a key are pressed
together. The selector keeps no choice of its own: a click on a button hands the
key of its persona to `onSelect`, once, and what is drawn next is up to the owner
of the choice.
-/

namespace JournalSite

namespace PersonaSelector

/-- Whether the button of a persona is pressed. -/
def isPressed (option : Persona) (selected : Option String) : Bool :=
  selected == some option.key

/-- The style class of a button. -/
def buttonClass (pressed : Bool) : String :=
  if pressed then "persona-option persona-option--selected" else "persona-option"

/-- The three texts on a button. -/
def buttonTexts (option : Persona) : Markup :=
  .element "span" [⟨"aria-hidden", "true"⟩, ⟨"class", "persona-option__emoji"⟩]
      (.text option.emoji) ++
    .element "span" [⟨"class", "persona-option__label"⟩] (.text option.label) ++
    .element "span" [⟨"class", "persona-option__description"⟩] (.text option.description)

/-- The button of a persona. -/
def button (selected : Option String) (option : Persona) : Markup :=
  let pressed := isPressed option selected
  .element "button"
    [⟨"type", "button"⟩, ⟨"aria-pressed", if pressed then "true" else "false"⟩,
     ⟨"class", buttonClass pressed⟩]
    (buttonTexts option)

/-- The selector: a button for each persona on offer, in order. -/
def markup (options : List Persona) (selected : Option String) : Markup :=
  .element "div" [⟨"role", "group"⟩, ⟨"class", "persona-selector"⟩]
    (.listed (options.map (button selected)))

/-- A click on the button with this index. There is no button past the last persona. -/
def click {m : Type → Type} [Monad m] (options : List Persona) (onSelect : String → m Unit)
    (index : Nat) : m Unit :=
  match options[index]? with
  | some option => onSelect option.key
  | none => pure ()

/-- Clicks on buttons one after the other, and the keys that `onSelect` was handed. -/
def clickedKeys (options : List Persona) (clicks : List Nat) : List String :=
  ((clicks.forM (click (m := StateM (List String)) options fun key =>
    modify (· ++ [key]))).run []).2

end PersonaSelector

/-- A click on a button of the personas on offer chooses the key of its persona. -/
def Personas.click (p : Personas) (index : Nat) : Personas :=
  ((PersonaSelector.click (m := StateM Personas) p.options (fun key =>
    modify fun q => q.select key) index).run p).2

end JournalSite
