import JournalSite.Journal.Address

/-!
# From the start page to today

The start page has nothing to show. It sends the visitor on to the journal day
that the clock shows, and takes its own place out of the browser's history, so
that going back skips it.

A clock reading is a moment of universal time: a day, a second of that day and a
nanosecond of that second. A leap second has no number of its own. It is counted
with the last second of its minute, whose nanoseconds then run on to two
thousand million.
-/

namespace JournalSite

/-! ### Clock readings -/

/-- How many seconds a day has. -/
def secondsPerDay : Int := 86400

/-- Whether a second of the day can have this nanosecond: below a thousand million, or below two
thousand million in the last second of a minute. -/
def AdmitsNanosecond (second nanosecond : Nat) : Prop :=
  nanosecond < 1000000000 ∨ (nanosecond < 2000000000 ∧ second % 60 = 59)

instance (second nanosecond : Nat) : Decidable (AdmitsNanosecond second nanosecond) :=
  inferInstanceAs (Decidable (_ ∨ _))

/-- A moment of universal time. -/
structure Clock where
  /-- The day. -/
  day : Day
  /-- The second of the day. -/
  second : Nat
  /-- The nanosecond of the second. -/
  nanosecond : Nat
  /-- A day has 86400 seconds. -/
  second_lt : second < 86400
  /-- Only the last second of a minute runs on. -/
  admits : AdmitsNanosecond second nanosecond

theorem secondOfDay_lt (seconds : Int) : (seconds % secondsPerDay).toNat < 86400 := by
  unfold secondsPerDay
  omega

/-- The clock that shows `seconds` since 1970-01-01 and `nanosecond` on top, if there is one. -/
def Clock.ofUnixTime? (seconds : Int) (nanosecond : Nat) : Option Clock :=
  match Day.ofNumber? (seconds / secondsPerDay) with
  | none => none
  | some day =>
    let second := (seconds % secondsPerDay).toNat
    if h : AdmitsNanosecond second nanosecond then
      some ⟨day, second, nanosecond, secondOfDay_lt seconds, h⟩
    else none

/-! ### Going to the day of the clock -/

/-- The address of the day that a clock shows. -/
def journalTargetAt (now : Clock) : String :=
  journalTarget now.day

/-- How the browser is to go to another address. What it may keep along with the address is left
out: nothing is ever kept there, and nothing is read from it. -/
structure NavigateOptions where
  /-- Whether the address is resolved against the current one. -/
  resolve : Bool
  /-- Whether the new address takes the place of the current one in the history. -/
  replace : Bool
  /-- Whether the page scrolls to its top. -/
  scroll : Bool
  deriving DecidableEq, Repr

/-- How the browser goes to another address if nothing else is said. -/
def NavigateOptions.standard : NavigateOptions := ⟨true, false, true⟩

/-- Goes to the journal day that the clock shows, in place of the current address. -/
def issueRedirect {m : Type → Type} (navigate : String → NavigateOptions → m Unit)
    (now : Clock) : m Unit :=
  navigate (journalTargetAt now) { NavigateOptions.standard with replace := true }

/-- The calls that the redirect makes. -/
def redirectCalls (now : Clock) : List (String × NavigateOptions) :=
  ((issueRedirect (m := StateM (List (String × NavigateOptions)))
    (fun path options => modify (· ++ [(path, options)])) now).run []).2

end JournalSite
