import JournalSite.Host.EnvFile.Value

/-!
# The assignments of a settings file

A statement gives a value to a name: the name, an equals sign and the value, with
blanks between them as one likes. The word `export` may stand in front, and is an
ordinary name if the equals sign follows it. A statement without any characters
but a comment gives no value.
-/

namespace JournalSite.EnvFile

open JournalSite.Text

/-- Whether a name can begin with a character. -/
def beginsName (c : Char) : Bool :=
  c.isAlpha || c == '_'

/-- Whether a name can go on with a character. -/
def continuesName (c : Char) : Bool :=
  c.isAlphanum || c == '_' || c == '.'

/-- The name a text begins with, and what follows it and the blanks behind it. -/
def readName? (cs : List Char) : Option (List Char × List Char) :=
  if cs.head?.any beginsName then
    some (cs.takeWhile continuesName, trimStart (cs.dropWhile continuesName))
  else none

/-- The name that gets a value, and what follows the equals sign. Where there is neither, the text
from that place on. -/
def readTarget (cs : List Char) : Except (List Char) (List Char × List Char) :=
  match readName? cs with
  | none => .error cs
  | some (name, '=' :: rest) => .ok (name, rest)
  | some (name, rest) =>
    if name = "export".toList then
      match readName? rest with
      | none => .error rest
      | some (name, '=' :: rest) => .ok (name, rest)
      | some (_, rest) => .error rest
    else .error rest

/-- A name and the value it gets. -/
structure Assignment where
  /-- The name of the setting. -/
  name : String
  /-- Its value. -/
  value : String
  deriving DecidableEq, Repr

/-- The assignment of a statement, none if there is nothing but a comment. A malformed statement
is told by how many bytes are before what cannot stand there. -/
def readAssignment (env : Environment) (statement : List Char) :
    Except Fault (Option Assignment) :=
  let line := trimEnd statement
  let body := trimStart line
  if body.isEmpty ∨ body.head? = some '#' then .ok none
  else
    match readTarget body with
    | .error rest => .error (.badLine statement (byteCount line - byteCount rest))
    | .ok (name, rest) =>
      let text := trimStart rest
      let value :=
        if text.isEmpty ∨ text.head? = some '#' then .ok [] else readValue env text
      value.map fun value => some ⟨String.ofList name, String.ofList value⟩

/-- Whether a value can be given to a setting: it has no zero character. -/
def Assignment.isSettable (a : Assignment) : Bool :=
  ! a.value.toList.contains '\x00'

/-- Where the reading of a settings file ends. -/
inductive Ending where
  /-- At the end of the file. -/
  | whole
  /-- At a fault. -/
  | faulty (fault : Fault)
  /-- At a value that no setting can have. -/
  | unsettable
  deriving DecidableEq, Repr

/-- Carries out statements in order. A faulty one ends that; what those before it have set
remains set. A name that is set to a text already keeps it, and the value it would get does not
matter then. -/
def runStatements (env : Environment) :
    List (Except Fault (List Char)) → Environment × Ending
  | [] => (env, .whole)
  | .error fault :: _ => (env, .faulty fault)
  | .ok statement :: rest =>
    match readAssignment env statement with
    | .error fault => (env, .faulty fault)
    | .ok none => runStatements env rest
    | .ok (some a) =>
      if (env.text? a.name).isSome then runStatements env rest
      else if a.isSettable then runStatements (env.set a.name a.value) rest
      else (env, .unsettable)

/-- The environment that a settings file makes of another, and where the reading of the file
ends. -/
def load (env : Environment) (bytes : List UInt8) : Environment × Ending :=
  runStatements env (statements bytes)

end JournalSite.EnvFile
