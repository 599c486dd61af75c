import JournalSite.Host.Environment
import JournalSite.Host.EnvFile.Statement
import JournalSite.Text.Alphanumeric

/-!
# The values of a settings file

A value ends at its first blank outside of quotes; behind it only a comment may
follow. Quotes take in blanks. Between single quotes every character means
itself. Elsewhere a backslash goes before a character that means itself or before
the `n` of a line feed, and a dollar sign before the name of a setting, whose
value takes the place of both. A name without braces ends before the first
character that is no letter and no digit; that character is always taken as it
is, even a quote.
-/

namespace JournalSite.EnvFile

open JournalSite.Text

/-- What the next character of a value belongs to. `inQuotes` says whether that is between double
quotes. -/
inductive ValueMode where
  /-- The value itself. -/
  | plain (inQuotes : Bool)
  /-- The value, between single quotes. -/
  | single
  /-- An escape. -/
  | escaped (inQuotes : Bool)
  /-- The name of a setting, of which some characters are read. -/
  | name (inQuotes : Bool) (read : List Char)
  /-- The name of a setting in braces, of which some characters are read. -/
  | braced (inQuotes : Bool) (read : List Char)
  /-- The blanks behind the value. -/
  | ended
  /-- The comment behind the value. -/
  | comment
  deriving DecidableEq, Repr

/-- How far a value is read. -/
structure ValueState where
  /-- What the next character belongs to. -/
  mode : ValueMode
  /-- The value so far. -/
  written : List Char
  deriving DecidableEq, Repr

/-- What a character behind a backslash means. -/
def escapeMeaning? (c : Char) : Option Char :=
  if c = '\\' ∨ c = '\'' ∨ c = '"' ∨ c = '$' ∨ c = ' ' then some c
  else if c = 'n' then some '\n'
  else none

/-- What the name of a setting is replaced by: its text, or nothing. -/
def settingChars (env : Environment) (name : List Char) : List Char :=
  ((env.text? (String.ofList name)).getD "").toList

namespace ValueState

/-- The state with one more character in the value. -/
def push (s : ValueState) (mode : ValueMode) (c : Char) : ValueState :=
  ⟨mode, s.written ++ [c]⟩

/-- The value goes on with a character outside of single quotes. -/
def plainStep (s : ValueState) (inQuotes : Bool) (c : Char) : ValueState :=
  if c = '$' then { s with mode := .name inQuotes [] }
  else if c = '\\' then { s with mode := .escaped inQuotes }
  else if c = '"' then { s with mode := .plain (!inQuotes) }
  else if inQuotes then s.push (.plain true) c
  else if c = '\'' then { s with mode := .single }
  else if c = ' ' ∨ c = '\t' then { s with mode := .ended }
  else s.push (.plain false) c

/-- The state after one more character; none if it cannot stand here. -/
def step (env : Environment) (s : ValueState) (c : Char) : Option ValueState :=
  match s.mode with
  | .plain inQuotes => some (s.plainStep inQuotes c)
  | .single => some (if c = '\'' then { s with mode := .plain false } else s.push .single c)
  | .escaped inQuotes => (escapeMeaning? c).map (s.push (.plain inQuotes))
  | .name inQuotes read =>
    if isAlphanumeric c then some { s with mode := .name inQuotes (read ++ [c]) }
    else if c = '\x7b' ∧ read.isEmpty then some { s with mode := .braced inQuotes [] }
    else
      let replaced := s.written ++ settingChars env read
      some (if c = '$' then ⟨.name inQuotes [], replaced⟩ else ⟨.plain inQuotes, replaced ++ [c]⟩)
  | .braced inQuotes read =>
    some (if c = '\x7d' then ⟨.plain inQuotes, s.written ++ settingChars env read⟩
      else { s with mode := .braced inQuotes (read ++ [c]) })
  | .ended =>
    if c = ' ' ∨ c = '\t' then some s
    else if c = '#' then some { s with mode := .comment }
    else none
  | .comment => some s

/-- The value at the end of the text; none if a quote or a brace is left open. -/
def value? (env : Environment) (s : ValueState) : Option (List Char) :=
  match s.mode with
  | .plain inQuotes | .escaped inQuotes => if inQuotes then none else some s.written
  | .name inQuotes read => if inQuotes then none else some (s.written ++ settingChars env read)
  | .single | .braced _ _ => none
  | .ended | .comment => some s.written

/-- The state after a text, or the place of the character that cannot stand there. -/
def run (env : Environment) (s : ValueState) (index : Nat) : List Char → Except Nat ValueState
  | [] => .ok s
  | c :: cs =>
    match s.step env c with
    | none => .error index
    | some next => run env next (index + 1) cs

end ValueState

/-- The value a text denotes. A character that cannot stand where it does is told by how many
characters are before it, a quote or brace left open by the last byte. -/
def readValue (env : Environment) (cs : List Char) : Except Fault (List Char) :=
  match ValueState.run env ⟨.plain false, []⟩ 0 cs with
  | .error index => .error (.badLine cs index)
  | .ok s =>
    match s.value? env with
    | some value => .ok value
    | none => .error (.badLine cs (byteCount cs - 1))

end JournalSite.EnvFile
