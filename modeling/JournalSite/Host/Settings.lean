import JournalSite.Host.Environment
import JournalSite.Host.Error
import JournalSite.Text.Blank

/-!
# The settings of the host

Three settings say where the host listens and what it serves besides the journal:
`HOST`, `PORT` and `WEBSITE_DIR`. Each has a default, which is also taken for a
value that is no text, and for a host or port of blanks only. A host or port that
says something else than an address or a port number is refused rather than
replaced by the default.
-/

namespace JournalSite

open JournalSite.Text

/-- What the host listens at and where its static pages lie. -/
structure HostSettings where
  /-- The socket the host listens at. -/
  address : SocketAddress
  /-- The directory of the static pages, none for the one that comes with the host. -/
  websiteDirectory : Option String
  deriving DecidableEq, Repr

namespace HostSettings

/-- The host listens on all interfaces by default. -/
def defaultHost : IPAddress := .v4 .unspecified

/-- The port the host listens at by default. -/
def defaultPort : UInt16 := 3000

/-- The setting that is read as a host or a port, without the blanks around it; none if there is
nothing but blanks. -/
def spoken? (raw : Option String) : Option String :=
  match raw with
  | none => none
  | some s => if (trimmed s).isEmpty then none else some (trimmed s)

/-- The address that the setting `HOST` names. -/
def readHost (raw : Option String) : Except HostError IPAddress :=
  match spoken? raw with
  | none => .ok defaultHost
  | some value =>
    match IPAddress.ofChars? value.toList with
    | some ip => .ok ip
    | none => .error (.badSetting "HOST" value "invalid IP address syntax")

/-- The port that the setting `PORT` names. -/
def readPort (raw : Option String) : Except HostError UInt16 :=
  match spoken? raw with
  | none => .ok defaultPort
  | some value =>
    match readNumeral 65535 value.toList with
    | .ok port => .ok (UInt16.ofNat port)
    | .error fault => .error (.badSetting "PORT" value fault.message)

/-- The settings of the host in an environment. The host is read before the port. -/
def ofEnvironment (env : Environment) : Except HostError HostSettings := do
  let host ← readHost (env.text? "HOST")
  let port ← readPort (env.text? "PORT")
  .ok ⟨.ofHost host port, env.text? "WEBSITE_DIR"⟩

end HostSettings

end JournalSite
