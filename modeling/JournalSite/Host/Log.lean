import JournalSite.Host.EnvFile.Statement
import JournalSite.Host.Error

/-!
# The log

What happens to the host is told in a log, one event after the other. An event
weighs more or less, is told by one part of the host, and has a message and named
values.
-/

namespace JournalSite

/-- How much an event weighs, the gravest first. -/
inductive LogLevel where
  /-- Something that keeps the host from running. -/
  | error
  /-- Something that is not as it should be. -/
  | warn
  /-- Something an operator wants to know. -/
  | info
  /-- Something that helps to find a mistake. -/
  | debug
  /-- Everything else. -/
  | trace
  deriving DecidableEq, Repr

namespace LogLevel

/-- The levels, the gravest first. -/
def all : List LogLevel := [error, warn, info, debug, trace]

/-- The place of a level among all, from 1. -/
def rank : LogLevel → Nat
  | error => 1
  | warn => 2
  | info => 3
  | debug => 4
  | trace => 5

/-- The name of a level. -/
def name : LogLevel → String
  | error => "ERROR"
  | warn => "WARN"
  | info => "INFO"
  | debug => "DEBUG"
  | trace => "TRACE"

end LogLevel

/-- Something that happens to the host. -/
structure LogEvent where
  /-- How much it weighs. -/
  level : LogLevel
  /-- The part of the host that tells it. -/
  place : String
  /-- What happens. -/
  message : String
  /-- What it happens with, by name. -/
  values : List (String × String)
  deriving DecidableEq, Repr

namespace LogEvent

/-- The names under which an event says something. -/
def fieldNames (e : LogEvent) : List String :=
  "message" :: e.values.map (·.1)

/-- An event as it is written, without the time. -/
def text (e : LogEvent) : String :=
  e.level.name ++ " " ++ e.place ++ ": " ++ e.message ++
    String.join (e.values.map fun (name, value) => " " ++ name ++ "=" ++ value)

/-- The settings file was read to its end. -/
def fileLoaded (path : String) : LogEvent :=
  ⟨.info, "daybook", "loaded .env", [("path", path)]⟩

/-- The settings file was read up to a fault. -/
def fileFaulty (fault : EnvFile.Fault) : LogEvent :=
  ⟨.warn, "daybook", "ignoring unreadable .env", [("error", fault.message)]⟩

/-- The directories of the files are known. -/
def directoriesKnown (site website : String) : LogEvent :=
  ⟨.debug, "daybook::routes", "static roots", [("site_root", site), ("website", website)]⟩

/-- The host listens. -/
def listening (address : SocketAddress) : LogEvent :=
  ⟨.info, "daybook", "daybook listening", [("addr", address.text)]⟩

/-- The host ends. -/
def exited (e : HostError) : LogEvent :=
  ⟨.error, "daybook", "daybook exited", [("error", e.message)]⟩

end LogEvent

end JournalSite
