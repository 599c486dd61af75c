import JournalSite.Text.Blank
import JournalSite.Text.Bytes
import JournalSite.Text.Digits

/-!
# The statements of a settings file

A settings file is cut into statements. A statement is a line, or several when a
quote that one line opens is closed on a later one. A number sign behind a blank
begins a comment, which runs to the end of the line and is cut off here; a line
that begins with a number sign has no statement in it.

Only one blank at a time is looked at: of two blanks before a number sign the
second counts as part of the value, so that comment is left for who reads the
statement.
-/

namespace JournalSite.EnvFile

open JournalSite.Text

/-- Why a settings file is not read any further. -/
inductive Fault where
  /-- A line is malformed at a place that is counted from its beginning. -/
  | badLine (line : List Char) (index : Nat)
  /-- A line is no text. -/
  | noText
  deriving DecidableEq, Repr

/-- The fault in words. -/
def Fault.message : Fault → String
  | badLine line index =>
    "Error parsing line: '" ++ String.ofList line ++ "', error at line index: " ++
      decimal index
  | noText => "stream did not contain valid UTF-8"

/-- Where in a statement the reader stands. -/
inductive Place where
  /-- Outside of quotes. -/
  | outside
  /-- Outside of quotes, behind a blank. -/
  | behindBlank
  /-- Outside of quotes, behind a backslash. -/
  | escaped
  /-- Between double quotes. -/
  | double
  /-- Between double quotes, behind a backslash. -/
  | doubleEscaped
  /-- Between single quotes. -/
  | single
  /-- Between single quotes, behind a backslash. -/
  | singleEscaped
  deriving DecidableEq, Repr

namespace Place

/-- Where a character outside of quotes leads, unless it is a blank or a number sign. -/
def opened (c : Char) : Place :=
  if c = '\\' then escaped
  else if c = '"' then double
  else if c = '\'' then single
  else outside

/-- Where a character leads; none if it begins a comment. -/
def after (place : Place) (c : Char) : Option Place :=
  match place with
  | outside =>
    if isBlank c ∧ c ≠ '\n' ∧ c ≠ '\r' then some behindBlank else some (opened c)
  | behindBlank => if c = '#' then none else some (opened c)
  | escaped => some outside
  | double =>
    if c = '\\' then some doubleEscaped else if c = '"' then some outside else some double
  | doubleEscaped => some double
  | single =>
    if c = '\\' then some singleEscaped else if c = '\'' then some outside else some single
  | singleEscaped => some single

end Place

/-- The characters before a comment, and where the text ends; none if a comment begins. -/
def cutComment (place : Place) : List Char → List Char × Option Place
  | [] => ([], some place)
  | c :: cs =>
    match place.after c with
    | none => ([], none)
    | some next =>
      let (kept, last) := cutComment next cs
      (c :: kept, last)

/-- A line without the line feed at its end, and the carriage return before that. -/
def withoutLineEnd (cs : List Char) : List Char :=
  match cs.reverse with
  | '\n' :: '\r' :: rest => rest.reverse
  | '\n' :: rest => rest.reverse
  | _ => cs

/-- The lines of a file, each with the line feed at its end. -/
def lines (bytes : List UInt8) : List (List UInt8) :=
  let feed : UInt8 := 10
  match bytes.splitOn feed with
  | [] => []
  | pieces =>
    (pieces.dropLast.map (· ++ [feed])) ++ (pieces.getLast?.toList.filter (! ·.isEmpty))

/-- The statements of the lines that follow `before`, which is a statement begun and not ended.
After a fault there are no more. -/
def statementsFrom (place : Place) (before : List Char) :
    List (List UInt8) → List (Except Fault (List Char))
  | [] => if place = .outside then [] else [.error (.badLine before (byteCount before))]
  | bytes :: rest =>
    match ofUtf8? bytes with
    | none => [.error .noText]
    | some line =>
      let whole := before ++ line.toList
      if (trimStart whole).head? = some '#' then statementsFrom .outside [] rest
      else
        match cutComment place line.toList with
        | (kept, none) => .ok (before ++ kept) :: statementsFrom .outside [] rest
        | (_, some .outside) => .ok (withoutLineEnd whole) :: statementsFrom .outside [] rest
        | (_, some place) => statementsFrom place whole rest

/-- The mark that may stand at the beginning of a file and says nothing. -/
def byteOrderMark : List UInt8 := [0xEF, 0xBB, 0xBF]

/-- The statements of a file. -/
def statements (bytes : List UInt8) : List (Except Fault (List Char)) :=
  statementsFrom .outside []
    (lines (if byteOrderMark.isPrefixOf bytes then bytes.drop 3 else bytes))

end JournalSite.EnvFile
