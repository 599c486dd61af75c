import JournalSite.Markup
import JournalSite.Text.Blank
import JournalSite.Text.UpperCase

/-!
# Status pills

A status pill is a small coloured tag that says how a thing stands: a
subscription, a journal entry, a page that is loading. Its colour (`StatusTone`)
follows from the status word by a table, exactly and with regard to case; its
label is the word made readable.
-/

namespace JournalSite

open Text

/-- The tone of a status. -/
inductive StatusTone where
  /-- All is well. -/
  | success
  /-- Something needs attention. -/
  | warning
  /-- Something has gone wrong or come to an end. -/
  | danger
  /-- Something is under way. -/
  | info
  /-- Nothing is known about the status. -/
  | neutral
  deriving DecidableEq, Repr

namespace StatusTone

/-- The name of a tone as the style sheet spells it. -/
def styleName : StatusTone → String
  | success => "success"
  | warning => "warning"
  | danger => "danger"
  | info => "info"
  | neutral => "neutral"

/-- The style class of a pill of this tone. -/
def styleClass (tone : StatusTone) : String :=
  "status-pill status-pill--" ++ tone.styleName

/-- The tones of the known statuses. -/
def table : List (String × StatusTone) :=
  [("active", success), ("paid", success), ("published", success),
   ("trialing", info), ("draft", info),
   ("pending", warning), ("past_due", warning), ("incomplete", warning),
   ("suspended", danger), ("canceled", danger), ("unpaid", danger), ("expired", danger)]

/-- The tone of a status. A status that is not in the table is neutral. -/
def ofStatus (status : String) : StatusTone :=
  (table.lookup status).getD neutral

end StatusTone

/-- A word of a status with its separators turned into spaces. -/
def spaced (cs : List Char) : List Char :=
  cs.map fun c => if c = '_' ∨ c = '-' then ' ' else c

/-- The label of a status: blanks off its ends, separators turned into spaces and the first letter
in upper case. A blank status is `Unknown`. -/
def statusLabel (status : String) : String :=
  match spaced (trim status.toList) with
  | [] => "Unknown"
  | first :: rest => String.ofList (upperCase first ++ rest)

/-- The pill of a status. -/
def statusPill (status : String) : Markup :=
  .element "span" [⟨"class", (StatusTone.ofStatus status).styleClass⟩] (.text (statusLabel status))

end JournalSite
