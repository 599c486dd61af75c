/-!
# Personas

A persona is a writing companion: the journal offers some of them and the writer
chooses one. `Personas` is the list on offer together with the key that was
chosen. The key is kept when the list changes, so it may name none of the
personas on offer; if it names several, the first of them is the chosen one.
-/

namespace JournalSite

/-- A writing companion. -/
structure Persona where
  /-- What the choice of this persona is known by. -/
  key : String
  /-- The name shown to the writer. -/
  label : String
  /-- What the companion is like. -/
  description : String
  /-- A picture character. -/
  emoji : String
  deriving DecidableEq, Repr

/-- The companions that are always there. -/
def builtInPersonas : List Persona :=
  [⟨"coach", "Coach", "Pushes you toward goals and follow-through.", "🏋️"⟩,
   ⟨"friend", "Friend", "Listens first and keeps things warm.", "🤝"⟩,
   ⟨"therapist", "Reflector", "Asks gentle questions about how you feel.", "🪞"⟩,
   ⟨"stoic", "Stoic", "Separates what you control from what you don't.", "🏛️"⟩]

/-- The personas on offer and the key that was chosen. -/
structure Personas where
  /-- The personas on offer, in order. -/
  options : List Persona
  /-- The chosen key, if there was a choice. -/
  selected : Option String
  deriving DecidableEq, Repr

namespace Personas

/-- The built-in companions, none of them chosen. -/
def initial : Personas := ⟨builtInPersonas, none⟩

/-- The chosen persona: the first on offer that has the chosen key. -/
def selectedOption (p : Personas) : Option Persona :=
  p.selected.bind fun key => p.options.find? (·.key == key)

/-- Chooses a key. -/
def select (p : Personas) (key : String) : Personas :=
  { p with selected := some key }

/-- Takes the choice back. -/
def clear (p : Personas) : Personas :=
  { p with selected := none }

/-- Offers other personas. The choice is kept. -/
def offer (p : Personas) (options : List Persona) : Personas :=
  { p with options := options }

/-- Offers one persona more, after the others. -/
def push (p : Personas) (option : Persona) : Personas :=
  p.offer (p.options ++ [option])

/-- Offers one persona less. An index past the end changes nothing. -/
def remove (p : Personas) (index : Nat) : Personas :=
  p.offer (p.options.eraseIdx index)

end Personas

end JournalSite
