import JournalSite.Boundary.View
import JournalSite.Journal.Address

/-!
# The entry of a day

The journal page shows the day that the fragment of its address names. The
fragment is known in the browser only: until the page is mounted there, no day is
selected yet and the page waits. A fragment that names no day is a failure of the
entry, and of the entry alone.
-/

namespace JournalSite

/-- The day the page is to show. -/
inductive DaySelection where
  /-- The page is not mounted, so the fragment is not known. -/
  | pending
  /-- The page is mounted and the fragment was read. -/
  | hash (result : Except DailyHashError Day)

/-- Selects the day of the fragment. The fragment is read once if the page is mounted, and not at
all if it is not. -/
def selectDay {m : Type → Type} [Monad m] (mounted : Bool) (readHash : m String) :
    m DaySelection :=
  if mounted then do
    let hash ← readHash
    pure (.hash (parseDailyHash hash))
  else pure .pending

/-- How an entry stands: past days are published, today is a draft and the days to come are
pending. -/
def entryStatus (d today : Day) : String :=
  match d.compare today with
  | .lt => "published"
  | .eq => "draft"
  | .gt => "pending"

/-- The status of a page that waits for its fragment. -/
def loadingStatus : String := "loading"

namespace DaySelection

/-- The day that the page links from, if it shows one. -/
def shownDay : DaySelection → Option Day
  | pending => none
  | hash (.ok d) => some d
  | hash (.error _) => none

/-- The status of the page. -/
def status (selection : DaySelection) (today : Day) : String :=
  match selection with
  | pending => loadingStatus
  | hash (.ok d) => entryStatus d today
  | hash (.error _) => "unknown"

/-- The day of the entry, and none while the page waits. A fragment that names no day is a
failure. -/
def entryDay : DaySelection → Except Failure (Option Day)
  | pending => .ok none
  | hash (.ok d) => .ok (some d)
  | hash (.error e) => .error (.ofError e.message e.causes)

end DaySelection

/-- The place of the entry while the page waits. -/
def pendingEntry : Markup :=
  .element "article"
    [⟨"aria-busy", "true"⟩, ⟨"class", "journal-entry journal-entry--pending"⟩] .empty

/-- The entry of a day: its heading and a field to write in. -/
def dayEntry (d : Day) : Markup :=
  .element "article" [⟨"class", "journal-entry"⟩]
    (.element "h1" [⟨"class", "journal-entry__date"⟩] (.text d.heading) ++
      .element "textarea"
        [⟨"class", "journal-entry__body"⟩, ⟨"placeholder", "What's on your mind today?"⟩] .empty)

/-- Builds the entry of a selection. -/
def renderEntry (selection : DaySelection) : Except Failure Markup := do
  match ← selection.entryDay with
  | none => .ok pendingEntry
  | some d => .ok (dayEntry d)

end JournalSite
