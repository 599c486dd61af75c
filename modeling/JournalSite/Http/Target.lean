import JournalSite.Text.Bytes

/-!
# Request targets

What a request asks for is written in one of four ways: as a path, with a query
behind a question mark as one likes; as a whole address, with the scheme and the
host in front; as the asterisk that stands for the server itself; or as the name
of a host alone. The path is kept as it is written.
-/

namespace JournalSite.Http

/-- The part of an address before its path. -/
structure Origin where
  /-- The scheme. -/
  scheme : List Char
  /-- The host, with what belongs to it. -/
  authority : List Char
  deriving DecidableEq, Repr

/-- What a request asks for. -/
inductive Target where
  /-- A path, with the query behind it, at an origin if one is named. -/
  | resource (origin : Option Origin) (path : List Char) (query : Option (List Char))
  /-- The server itself. -/
  | asterisk
  /-- A host, with its port as one likes. -/
  | host (name : List Char)
  deriving DecidableEq, Repr

namespace Target

/-- The path and the query of a text that begins with them. -/
def ofPath (origin : Option Origin) (cs : List Char) : Target :=
  let path := cs.takeWhile (· != '?')
  let query :=
    match cs.dropWhile (· != '?') with
    | [] => none
    | _ :: query => some query
  .resource origin (if path.isEmpty then ['/'] else path) query

/-- The scheme of a text that is a whole address, and what follows its `://`. -/
def cutScheme? (cs : List Char) : Option (List Char × List Char) :=
  match cs.dropWhile (· != ':') with
  | ':' :: '/' :: '/' :: rest => some (cs.takeWhile (· != ':'), rest)
  | _ => none

/-- A scheme as it is written in an address: the two of the web in lower case. -/
def schemeChars (scheme : List Char) : List Char :=
  let lower := scheme.map Char.toLower
  if lower = "http".toList ∨ lower = "https".toList then lower else scheme

/-- The target that a text denotes. A fragment is no part of it. -/
def ofChars (text : List Char) : Target :=
  let cs := text.takeWhile (· != '#')
  match cs with
  | '/' :: _ => ofPath none cs
  | _ =>
    match cutScheme? cs with
    | some (scheme, rest) =>
      let isEnd (c : Char) : Bool := c == '/' || c == '?'
      ofPath (some ⟨schemeChars scheme, rest.takeWhile (! isEnd ·)⟩) (rest.dropWhile (! isEnd ·))
    | none => if cs = ['*'] then .asterisk else .host cs

/-- The written form of what stands before the path. -/
def originChars : Option Origin → List Char
  | none => []
  | some origin => origin.scheme ++ "://".toList ++ origin.authority

/-- The written form of a query. -/
def queryChars : Option (List Char) → List Char
  | none => []
  | some query => '?' :: query

/-- The written form of a target. -/
def chars : Target → List Char
  | resource origin path query => originChars origin ++ path ++ queryChars query
  | asterisk => ['*']
  | host name => name

/-- The path of a target as it is looked up. A host has none. -/
def path : Target → List Char
  | resource _ path _ => path
  | asterisk => ['*']
  | host _ => []

/-- Whether a target is written as a path, with or without an origin. -/
def isResource : Target → Bool
  | resource _ _ _ => true
  | asterisk => false
  | host _ => false

/-- The target with a slash at the end of its path. Without a path there is no place for one. -/
def slashed? : Target → Option Target
  | resource origin path query => some (resource origin (path ++ ['/']) query)
  | asterisk => none
  | host _ => none

end Target

end JournalSite.Http
