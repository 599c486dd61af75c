import JournalSite.Text.Blank

/-!
# Failures

A part of a page that cannot be built fails with a message and perhaps a context,
which says where or why. Errors of any kind become failures: the error's own text
is the message, and the texts of its causes, nearest first, are the context. The
causes are found by going from the error to its source, from there to the source
of the source, and so on until there is none.
-/

namespace JournalSite

/-- An error of any kind, with the errors behind it. -/
inductive CausedError where
  /-- An error without a source. -/
  | plain (text : String)
  /-- An error with the error that is its source. -/
  | because (text : String) (source : CausedError)
  deriving DecidableEq, Repr

namespace CausedError

/-- The error's own text. -/
def text : CausedError → String
  | plain text => text
  | because text _ => text

/-- The texts of the causes, the nearest first: of the source, of the source of the source, and so
on. -/
def causes : CausedError → List String
  | plain _ => []
  | because _ source => source.text :: source.causes

end CausedError

/-- Why a part of a page could not be built. -/
structure Failure where
  /-- What went wrong. -/
  message : String
  /-- Where or why it went wrong. An empty context is a context too. -/
  context : Option String
  deriving DecidableEq, Repr

/-- What the panel says about a failure whose message is blank. -/
def genericFailureMessage : String := "An unexpected error occurred."

namespace Failure

/-- The texts of the causes of an error as one text: joined by colon and space, and none if there
is no cause. -/
def joinedCauses : List String → Option String
  | [] => none
  | causes => some (": ".intercalate causes)

/-- The failure that stands for an error with this text and these causes. -/
def ofError (text : String) (causes : List String) : Failure :=
  ⟨text, joinedCauses causes⟩

/-- The same failure with another context. -/
def withContext (e : Failure) (context : String) : Failure :=
  { e with context := some context }

/-- The failure as the text of an error, which is its message. -/
def text (e : Failure) : String := e.message

/-- The failure made of a failure that is passed on as an error: the context is not passed on. -/
def again (e : Failure) : Failure :=
  ofError e.text []

/-- What the panel says about a failure: its message without the blanks at its ends, or the
generic message if nothing else is left. -/
def panelMessage (e : Failure) : String :=
  if (Text.trim e.message.toList).isEmpty then genericFailureMessage
  else Text.trimmed e.message

/-- The line that the log gets when a boundary captures a failure. -/
def logLine (e : Failure) : String :=
  match e.context with
  | some context => "render boundary caught failure: " ++ e.message ++ " (" ++ context ++ ")"
  | none => "render boundary caught failure: " ++ e.message

end Failure

end JournalSite
