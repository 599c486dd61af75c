import JournalSite.Host.Environment
import JournalSite.Host.Log
import JournalSite.Text.Numeral

/-!
# What the log shows

An operator chooses what the log shows by the setting `RUST_LOG`, a list of
directives between commas. A directive names a level, or a part of the host, or
both with an equals sign between them: `warn`, `daybook`, `daybook::routes=debug`.
A field in brackets and braces behind the part, as in `daybook[{addr}]=info`,
limits it to the events that have the field. One malformed directive spoils the
whole list, and then nothing is shown.

Of the directives that speak of an event the most specific one decides. Where
none does, the event is not shown.
-/

namespace JournalSite

open JournalSite.Text

/-- A directive of what the log shows. -/
structure LogDirective where
  /-- What the name of the part begins with that it speaks of, none for every part. -/
  place : Option String
  /-- The field an event must have, if one is named. -/
  field : Option String
  /-- How many levels are shown, from the gravest on. -/
  shown : Nat
  deriving DecidableEq, Repr

namespace LogDirective

/-- How many levels a text says are shown: their number, the name of the last of them in either
case, or `off`. No text at all stands for the gravest. -/
def readShown? (cs : List Char) : Option Nat :=
  let lower := cs.map Char.toLower
  match readNumeral (UInt64.size - 1) cs with
  | .ok count => if count ≤ LogLevel.all.length then some count else none
  | .error _ =>
    if cs.isEmpty then some LogLevel.error.rank
    else if lower = "off".toList then some 0
    else (LogLevel.all.find? fun l => l.name.toList.map Char.toLower == lower).map LogLevel.rank

/-- The text before the first `[` and brace, and what follows them. -/
def cutField? : List Char → Option (List Char × List Char)
  | '[' :: '\x7b' :: rest => some ([], rest)
  | c :: rest => (cutField? rest).map fun (place, field) => (c :: place, field)
  | [] => none

/-- A text, written backwards, without any brace and `]` at its end. -/
def unclosed : List Char → List Char
  | ']' :: '\x7d' :: rest => unclosed rest
  | cs => cs

/-- The field that a text between brackets and braces names, of which the opening ones are cut
off. It may name none. -/
def readField? (cs : List Char) : Option (Option String) :=
  if (cutField? cs).isSome then none
  else
    match cs.reverse with
    | ']' :: '\x7d' :: rest =>
      let name := (unclosed rest).reverse
      some (if name.isEmpty then none else some (String.ofList name))
    | _ => none

/-- The directive a text denotes. A text without an equals sign that names no level names a part,
of which everything is shown. -/
def ofChars? (cs : List Char) : Option LogDirective :=
  match cs.splitOn '=' with
  | [text] =>
    match readShown? text with
    | some shown => some ⟨none, none, shown⟩
    | none => some ⟨some (String.ofList text), none, LogLevel.trace.rank⟩
  | [selector, level] => do
    let (place, field) ←
      match cutField? selector with
      | none => some (selector, none)
      | some (place, rest) => (readField? rest).map fun field => (place, field)
    some ⟨some (String.ofList place), field, ← readShown? level⟩
  | _ => none

/-- Whether a directive speaks of an event. -/
def concerns (d : LogDirective) (e : LogEvent) : Bool :=
  d.place.all (fun place => place.toList.isPrefixOf e.place.toList) &&
    d.field.all (e.fieldNames.contains ·)

/-- How specific a directive is about the part: the longer its name the more, and least without
one. -/
def placeRank (d : LogDirective) : Nat :=
  match d.place with
  | none => 0
  | some place => place.toList.length + 1

/-- Whether a field is more specific than another. Any field is more specific than none; of two
fields the later one in the order of texts counts as more specific. -/
def isFinerField : Option String → Option String → Bool
  | some a, some b => decide (b < a)
  | some _, none => true
  | none, _ => false

/-- Whether a directive is more specific than another that speaks of the same event. -/
def isFiner (a b : LogDirective) : Bool :=
  b.placeRank < a.placeRank || (a.placeRank == b.placeRank && isFinerField a.field b.field)

end LogDirective

/-- What the log shows. -/
structure LogFilter where
  /-- The directives in the order in which they are given. -/
  directives : List LogDirective
  deriving DecidableEq, Repr

namespace LogFilter

/-- The directive that decides about an event. Of two that are equally specific the later does. -/
def decisive? (f : LogFilter) (e : LogEvent) : Option LogDirective :=
  (f.directives.filter (·.concerns e)).foldl
    (fun best d =>
      match best with
      | none => some d
      | some b => some (if b.isFiner d then b else d))
    none

/-- Whether an event is shown. -/
def shows (f : LogFilter) (e : LogEvent) : Bool :=
  (f.decisive? e).any fun d => e.level.rank ≤ d.shown

/-- Without directives, all is shown that an operator wants to know. -/
def standard : LogFilter := ⟨[⟨none, none, LogLevel.info.rank⟩]⟩

/-- The filter that a text denotes. A malformed one shows nothing. -/
def ofChars (cs : List Char) : LogFilter :=
  ⟨((cs.splitOn ',').mapM LogDirective.ofChars?).getD []⟩

/-- The filter in an environment. -/
def ofEnvironment (env : Environment) : LogFilter :=
  match env.text? "RUST_LOG" with
  | none => standard
  | some value => ofChars value.toList

/-- The lines that the log shows of some events. -/
def lines (f : LogFilter) (events : List LogEvent) : List String :=
  (events.filter f.shows).map LogEvent.text

end LogFilter

end JournalSite
