import JournalSite.Boundary.Failure
import JournalSite.Calendar.DayNumber
import JournalSite.Calendar.DayText

/-!
# Addresses of journal days

The journal has one page, and the fragment of its address says which day it
shows: `/journal#daily/2024-03-07`. `journalTarget` writes the address of a day;
`parseDailyHash` reads a fragment, whose `#` may be missing, and says why it
names no day if it names none.
-/

namespace JournalSite

/-- The path of the journal page. -/
def journalPath : String := "/journal"

/-- What the fragment of a journal day begins with. -/
def dailyMark : List Char := "daily/".toList

/-- The fragment that names a day. -/
def dailyHash (d : Day) : String :=
  String.ofList ('#' :: (dailyMark ++ d.dateChars))

/-- The address of a journal day. -/
def journalTarget (d : Day) : String :=
  journalPath ++ dailyHash d

/-- Why a fragment names no journal day. -/
inductive DailyHashError where
  /-- The fragment is about something else. It is kept as it was. -/
  | notDaily (hash : String)
  /-- The text in the place of the date is no date. -/
  | invalidDate (date : String) (fault : DateFault)
  deriving DecidableEq, Repr

namespace DailyHashError

/-- The error with its source, which is the fault of the date if there is one. -/
def caused : DailyHashError → CausedError
  | notDaily _ => .plain "No journal day selected"
  | invalidDate date fault =>
    .because ("Not a valid journal date: " ++ date) (.plain fault.message)

/-- The error in words. -/
def message (e : DailyHashError) : String := e.caused.text

/-- The texts of what caused the error, the nearest cause first. -/
def causes (e : DailyHashError) : List String := e.caused.causes

end DailyHashError

/-- What is left of a fragment without its `#`, if it has one. -/
def withoutMark : List Char → List Char
  | '#' :: rest => rest
  | cs => cs

/-- The text in the place of the date, if the fragment is about a day. -/
def dailyDate? (hash : List Char) : Option (List Char) :=
  let raw := withoutMark hash
  if dailyMark.isPrefixOf raw then some (raw.drop dailyMark.length) else none

/-- The day that a fragment names. -/
def parseDailyHash (hash : String) : Except DailyHashError Day :=
  match dailyDate? hash.toList with
  | none => .error (.notDaily hash)
  | some date =>
    match Day.ofDateChars? date with
    | .ok day => .ok day
    | .error fault => .error (.invalidDate (String.ofList date) fault)

/-- The days before and after a day, as the page links to them. -/
def adjacentDays (d : Day) : Day × Day :=
  (d.previous, d.next)

end JournalSite
