import JournalSite.Network.Address
import JournalSite.Text.Quoted

/-!
# Why the host does not run

The host refuses a malformed setting, cannot take the address it is to listen at,
or stops serving. Each reason is told in one line; what an operator typed stands
in it in quoted form.
-/

namespace JournalSite

/-- The reasons for which the host does not run. -/
inductive HostError where
  /-- A setting cannot be read. -/
  | badSetting (name value reason : String)
  /-- The settings of the pages cannot be used. -/
  | badPageSettings (reason : String)
  /-- The address to listen at cannot be taken. -/
  | cannotBind (address : SocketAddress) (cause : String)
  /-- Serving ended. -/
  | stopped (cause : String)
  deriving DecidableEq, Repr

namespace HostError

/-- The reason in one line. -/
def message : HostError → String
  | badSetting name value reason => "invalid " ++ name ++ "=" ++ Text.quoted value ++ ": " ++ reason
  | badPageSettings reason => "leptos configuration: " ++ reason
  | cannotBind address cause => "failed to bind " ++ address.text ++ ": " ++ cause
  | stopped cause => "server failed: " ++ cause

/-- The failure of the system that is behind the reason, if one is. -/
def cause? : HostError → Option String
  | badSetting _ _ _ => none
  | badPageSettings _ => none
  | cannotBind _ cause => some cause
  | stopped cause => some cause

end HostError

end JournalSite
