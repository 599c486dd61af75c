import JournalSite.Component.Layout
import JournalSite.Component.StatusPill
import JournalSite.Journal.Entry
import JournalSite.Persona.Selector

/-!
# The journal page

The page as the server sends it. The server never learns the fragment, so the
page waits: its status is `loading`, there are no links to other days and the
entry is pending. The companions are there at once, with a prompt that speaks in
the voice of the chosen one.
-/

namespace JournalSite

/-- What the writer is prompted with: the picture and description of the chosen companion. -/
def companionPrompt (personas : Personas) : String :=
  match personas.selectedOption with
  | some p => p.emoji ++ " " ++ p.description
  | none => "Pick a companion to shape today's prompts."

/-- The head of the page. A page that waits has the marker in place of the links to other days. -/
def pageHeader (status : String) : Markup :=
  .element "header" [⟨"class", "journal-page__header"⟩] (.marker ++ statusPill status)

/-- The part of the page about the companions. -/
def companionSection (personas : Personas) : Markup :=
  .element "section" [⟨"class", "journal-page__companion"⟩]
    (.element "h2" [] (.text "Writing companion") ++
      .element "p" [⟨"class", "journal-page__prompt"⟩] (.text (companionPrompt personas)) ++
      PersonaSelector.markup personas.options personas.selected)

/-- The journal page as the server sends it. -/
def journalPage (personas : Personas) : Markup :=
  layoutShell
    (.element "main" [⟨"class", "journal-page"⟩]
        (pageHeader loadingStatus ++ guarded (renderEntry .pending) ++
          companionSection personas) ++
      siteFooter)

end JournalSite
