import JournalSite.Host.EnvFile.Assignment
import JournalSite.Host.LogFilter
import JournalSite.Host.PageSettings
import JournalSite.Host.Settings

/-!
# Starting the host

The host first takes over what the settings file says, then reads its own
settings and those of the pages, and then takes its address. What happens is told
in a log. A settings file that cannot be read is passed over with a warning;
everything else that goes wrong ends the host. A value of the settings file that
no setting can have breaks it down, before anything can be logged.
-/

namespace JournalSite

/-- A settings file that was found. -/
structure FoundFile where
  /-- Where it lies. -/
  path : String
  /-- What it holds. -/
  content : List UInt8
  deriving DecidableEq, Repr

/-- What the host finds on the machine it is started on. -/
structure Machine where
  /-- The settings file, if there is one. -/
  settingsFile : Option FoundFile
  /-- Where the static pages lie that come with the host. -/
  websiteDirectory : String
  /-- Why an address cannot be taken, none if it can. -/
  refusal : SocketAddress → Option String

/-- The host after its settings are read. -/
structure HostPlan where
  /-- What the host listens at and where its static pages lie. -/
  host : HostSettings
  /-- The settings of the pages. -/
  pages : PageSettings
  deriving DecidableEq, Repr

/-- What becomes of the host. -/
inductive HostOutcome where
  /-- It listens. -/
  | listening (plan : HostPlan)
  /-- It ends and says why. -/
  | exited (reason : HostError)
  /-- It breaks down over the settings file. -/
  | brokenDown

/-- What came of starting the host. -/
structure Startup where
  /-- What the log shows, event by event. -/
  log : List String
  /-- What became of the host. -/
  outcome : HostOutcome

/-- What keeps a process without special rights from an address: the ports below 1024 are kept
for others, but for 0, which stands for any port that is free. -/
def withoutRights (address : SocketAddress) : Option String :=
  if 0 < address.port ∧ address.port < 1024 then some "Permission denied (os error 13)" else none

namespace Startup

/-- What there is to say about the directories of the files. -/
def directories (machine : Machine) (plan : HostPlan) : LogEvent :=
  .directoriesKnown plan.pages.siteDirectory
    (plan.host.websiteDirectory.getD machine.websiteDirectory)

/-- The host that an environment asks for. -/
def plan (env : Environment) : Except HostError HostPlan := do
  let host ← HostSettings.ofEnvironment env
  let pages ← PageSettings.ofEnvironment env
  .ok ⟨host, pages⟩

/-- What happens when the host is started with its settings, and what becomes of it. -/
def proceed (machine : Machine) (env : Environment) : List LogEvent × HostOutcome :=
  match plan env with
  | .error e => ([.exited e], .exited e)
  | .ok plan =>
    let address := plan.host.address
    match machine.refusal address with
    | none => ([directories machine plan, .listening address], .listening plan)
    | some cause =>
      let e := HostError.cannotBind address cause
      ([directories machine plan, .exited e], .exited e)

/-- What there is to say about a settings file that was read up to some end. -/
def fileEvent (path : String) : EnvFile.Ending → List LogEvent
  | .whole => [.fileLoaded path]
  | .faulty fault => [.fileFaulty fault]
  | .unsettable => []

/-- Starts the host in an environment. -/
def run (machine : Machine) (env : Environment) : Startup :=
  let (env, path, ending) :=
    match machine.settingsFile with
    | none => (env, none, EnvFile.Ending.whole)
    | some file =>
      let (env, ending) := EnvFile.load env file.content
      (env, some file.path, ending)
  if ending = .unsettable then ⟨[], .brokenDown⟩
  else
    let (events, outcome) := proceed machine env
    let before := path.toList.flatMap (fileEvent · ending)
    ⟨(LogFilter.ofEnvironment env).lines (before ++ events), outcome⟩

/-- The code the program ends with, none while the host listens. -/
def exitCode? (s : Startup) : Option UInt8 :=
  match s.outcome with
  | .listening _ => none
  | .exited _ => some 1
  | .brokenDown => some 101

end Startup

end JournalSite
