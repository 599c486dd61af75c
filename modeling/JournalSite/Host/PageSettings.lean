import JournalSite.Host.Environment
import JournalSite.Host.Error

/-!
# The settings of the pages

The pages are served with settings of their own: the names under which the
browser finds the script of the journal, and a number of settings that matter
only while the site is being worked on, but are checked all the same. They are
read in one order, and the first that cannot be read is reported. A setting that
is present is read as it stands, blanks included, and an empty one too. Whether
the site is being watched for changes is never at fault: any text says that it
is.
-/

namespace JournalSite

open JournalSite.Text

/-- The two ways in which a site runs. -/
inductive SiteMode where
  /-- The site is being worked on. -/
  | development
  /-- The site is in use. -/
  | production
  deriving DecidableEq, Repr

/-- The two protocols by which a page can be told to reload. -/
inductive ReloadProtocol where
  /-- The plain protocol. -/
  | plain
  /-- The encrypted protocol. -/
  | secure
  deriving DecidableEq, Repr

/-- What an address of a protocol begins with. -/
def ReloadProtocol.scheme : ReloadProtocol → String
  | plain => "ws://"
  | secure => "wss://"

/-- Why the settings of the pages cannot be used. -/
inductive PageSettingFault where
  /-- A setting is no text. -/
  | noText (name : String) (value : List UInt8)
  /-- A text names no mode. -/
  | badMode (value : String)
  /-- A text is no socket address. -/
  | badAddress
  /-- A text is no number within the limit. -/
  | badNumber (fault : NumeralFault)
  /-- A text names no protocol. -/
  | badProtocol (value : String)
  /-- A text is neither `true` nor `false`. -/
  | badFlag
  deriving DecidableEq, Repr

/-- The fault in words. -/
def PageSettingFault.message : PageSettingFault → String
  | noText name value =>
    name ++ ": environment variable was not valid unicode: " ++ quotedBytes value
  | badMode value =>
    value ++ " is not a supported environment. Use either `dev`, `development`, `prod`, or " ++
      "`production`."
  | badAddress => "invalid socket address syntax"
  | badNumber fault => fault.message
  | badProtocol value =>
    value ++ " is not a supported websocket protocol. Use only `ws` or `wss`."
  | badFlag => "provided string was not `true` or `false`"

/-- The settings of the pages. -/
structure PageSettings where
  /-- The name of the script and of the program it loads, without their endings. -/
  outputName : String
  /-- The directory of the site's files, none for the one that comes with the host. -/
  siteRoot : Option String
  /-- The directory of the script, as the browser asks for it. -/
  packageDirectory : String
  /-- The way in which the site runs. -/
  mode : SiteMode
  /-- The address the site believes to be at. -/
  siteAddress : SocketAddress
  /-- The port by which pages are told to reload. -/
  reloadPort : Nat
  /-- That port as seen from outside, if it is another. -/
  externalReloadPort : Option Nat
  /-- The protocol by which pages are told to reload. -/
  reloadProtocol : ReloadProtocol
  /-- The page for addresses without one. -/
  notFoundPath : String
  /-- The file that lists the marks of the files' versions. -/
  versionsFile : String
  /-- Whether the names of files carry marks of their versions. -/
  versionsInNames : Bool
  /-- What the addresses of the server's functions begin with, if it is set. -/
  functionPrefix : Option String
  /-- Whether the names of the server's functions are used without a mark. -/
  plainFunctionNames : Bool
  /-- Whether the addresses of the server's functions name their module. -/
  functionModules : Bool
  /-- Whether pages are to reload when the site changes. -/
  watched : Bool
  deriving DecidableEq, Repr

namespace PageSettings

/-- A setting that is given as a text, if it is given. -/
def given? (env : Environment) (name : String) : Except PageSettingFault (Option String) :=
  match env.setting name with
  | .unset => .ok none
  | .text value => .ok (some value)
  | .noText value => .error (.noText name value)

/-- A setting that has a default. -/
def givenOr (env : Environment) (name default : String) : Except PageSettingFault String :=
  (given? env name).map fun value => value.getD default

/-- The mode a text names, in either case. -/
def readMode (value : String) : Except PageSettingFault SiteMode :=
  if value.toLower = "dev" ∨ value.toLower = "development" then .ok .development
  else if value.toLower = "prod" ∨ value.toLower = "production" then .ok .production
  else .error (.badMode value)

/-- The socket address a text denotes. -/
def readAddress (value : String) : Except PageSettingFault SocketAddress :=
  match SocketAddress.ofChars? value.toList with
  | some address => .ok address
  | none => .error .badAddress

/-- The number of at most 32 bits that a text denotes. -/
def readNumber (value : String) : Except PageSettingFault Nat :=
  (readNumeral 4294967295 value.toList).mapError .badNumber

/-- The protocol a text names, in either case. -/
def readProtocol (value : String) : Except PageSettingFault ReloadProtocol :=
  if value.toLower = "ws" then .ok .plain
  else if value.toLower = "wss" then .ok .secure
  else .error (.badProtocol value)

/-- The answer a text gives to a question of yes or no. -/
def readFlag (value : String) : Except PageSettingFault Bool :=
  if value = "true" then .ok true
  else if value = "false" then .ok false
  else .error .badFlag

/-- The settings of the pages in an environment. -/
def read (env : Environment) : Except PageSettingFault PageSettings := do
  let outputName ← givenOr env "LEPTOS_OUTPUT_NAME" ""
  let siteRoot ← given? env "LEPTOS_SITE_ROOT"
  let packageDirectory ← givenOr env "LEPTOS_SITE_PKG_DIR" "pkg"
  let mode ← readMode (← givenOr env "LEPTOS_ENV" "DEV")
  let siteAddress ← readAddress (← givenOr env "LEPTOS_SITE_ADDR" "127.0.0.1:3000")
  let reloadPort ← readNumber (← givenOr env "LEPTOS_RELOAD_PORT" "3001")
  let externalReloadPort ← (← given? env "LEPTOS_RELOAD_EXTERNAL_PORT").mapM readNumber
  let reloadProtocol ← readProtocol (← givenOr env "LEPTOS_RELOAD_WS_PROTOCOL" "ws")
  let notFoundPath ← givenOr env "LEPTOS_NOT_FOUND_PATH" "/404"
  let versionsFile ← givenOr env "LEPTOS_HASH_FILE_NAME" "hash.txt"
  let versionsInNames ← readFlag (← givenOr env "LEPTOS_HASH_FILES" "false")
  let functionPrefix ← given? env "SERVER_FN_PREFIX"
  let plainFunctionNames ← given? env "DISABLE_SERVER_FN_HASH"
  let functionModules ← given? env "SERVER_FN_MOD_PATH"
  .ok {
    outputName, siteRoot, packageDirectory, mode, siteAddress, reloadPort, externalReloadPort,
    reloadProtocol, notFoundPath, versionsFile, versionsInNames, functionPrefix,
    plainFunctionNames := plainFunctionNames.isSome
    functionModules := functionModules.isSome
    watched := (env.text? "LEPTOS_WATCH").isSome }

/-- The directory of the site's files. -/
def siteDirectory (settings : PageSettings) : String :=
  settings.siteRoot.getD "target/site"

/-- The settings of the pages in an environment; a fault keeps the host from running. -/
def ofEnvironment (env : Environment) : Except HostError PageSettings :=
  (read env).mapError fun fault => .badPageSettings ("Config Error: " ++ fault.message)

end PageSettings

end JournalSite
