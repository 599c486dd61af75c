import JournalSite.Text.Numeral

/-!
# The path of an address

What a browser shows as an address is read as the URL standard reads it, seen
from the root of the site, whose scheme is `https`: blanks around it and line
breaks in it do not count, a backslash is a slash, dot segments are resolved, and
the query and the fragment are no part of the path. The path is everything that
matters here; the host may be any other. Percent codes stay as they are, but for
`%2e`, which makes a dot segment like the dot itself.

`resolve` is the core of it: the pieces between slashes are put on a stack one
after the other, and a dot segment takes the last one off or leaves things as
they are. A piece that names a disk, such as `C:`, is never taken off.
-/

namespace JournalSite.UrlPath

open JournalSite.Text

/-! ### Dot segments -/

/-- A piece with every `%2e` replaced by a dot. -/
def withDots : List Char → List Char
  | '%' :: '2' :: 'e' :: rest => '.' :: withDots rest
  | '%' :: '2' :: 'E' :: rest => '.' :: withDots rest
  | c :: rest => c :: withDots rest
  | [] => []

/-- Whether a piece names the place it stands at. -/
def isHere (piece : List Char) : Bool := withDots piece == ['.']

/-- Whether a piece names the place above. -/
def isUp (piece : List Char) : Bool := withDots piece == ['.', '.']

/-- Whether a piece names a disk: a letter and a colon or a bar. A backslash, where it parts no
pieces, may begin what follows. -/
def isDisk (piece : List Char) : Bool :=
  match piece with
  | letter :: mark :: rest =>
    letter.isAlpha && (mark == ':' || mark == '|') && rest.head?.all (· == '\\')
  | _ => false

/-- The stack without its last piece, unless that is a disk. -/
def above (stack : List (List Char)) : List (List Char) :=
  if stack.getLast?.any isDisk then stack else stack.dropLast

/-- The pieces that are left when the dot segments are resolved on top of `stack`. A dot segment at
the end leaves an empty piece, which is a slash at the end of the path. -/
def resolve (stack : List (List Char)) : List (List Char) → List (List Char)
  | [] => stack
  | [piece] =>
    if isUp piece then above stack ++ [[]]
    else if isHere piece then stack ++ [[]]
    else stack ++ [piece]
  | piece :: rest =>
    if isUp piece then resolve (above stack) rest
    else if isHere piece then resolve stack rest
    else resolve (stack ++ [piece]) rest

/-- Pieces with a slash before each. -/
def joined (pieces : List (List Char)) : List Char :=
  pieces.flatMap ('/' :: ·)

/-- Whether a character parts two pieces. -/
def isSlash (c : Char) : Bool := c == '/' || c == '\\'

/-- Whether the path ends before a character. -/
def endsPath (c : Char) : Bool := c == '?' || c == '#'

/-- The text before a query or a fragment. -/
def beforeQuery (cs : List Char) : List Char :=
  cs.takeWhile (! endsPath ·)

/-- The path that a text behind its first slash denotes. `slash` says what parts the pieces. -/
def rooted (slash : Char → Bool) (cs : List Char) : List Char :=
  joined (resolve [] ((beforeQuery cs).splitOnP slash))

/-! ### Addresses -/

/-- Whether a character is dropped at either end of an address. -/
def isMargin (c : Char) : Bool := c.toNat ≤ 0x20

/-- Whether a character is dropped anywhere in an address. -/
def isBreak (c : Char) : Bool := c == '\t' || c == '\n' || c == '\r'

/-- An address without the characters that do not count. -/
def spoken (cs : List Char) : List Char :=
  (((cs.dropWhile isMargin).reverse.dropWhile isMargin).reverse).filter (! isBreak ·)

/-- Whether a scheme can go on with a character. -/
def continuesScheme (c : Char) : Bool :=
  c.isAlphanum || c == '+' || c == '-' || c == '.'

/-- The scheme of an address in lower case, and what follows its colon. -/
def scheme? (cs : List Char) : Option (List Char × List Char) :=
  if cs.head?.any Char.isAlpha then
    match cs.dropWhile continuesScheme with
    | ':' :: rest => some ((cs.takeWhile continuesScheme).map Char.toLower, rest)
    | _ => none
  else none

/-- The text behind the last `mark`, all of it if there is none. -/
def behindLast (mark : Char) (cs : List Char) : List Char :=
  (cs.reverse.takeWhile (· != mark)).reverse

/-- Whether a text is a port: digits for a number within the limit, or nothing. -/
def isPort (cs : List Char) : Bool :=
  cs.isEmpty || (readDigits 65535 0 cs).isOk

/-- Whether a text names a host, with or without a port. -/
def namesHost (cs : List Char) : Bool :=
  let name := cs.takeWhile (· != ':')
  cs.head? == some '[' || (!name.isEmpty && isPort ((cs.drop name.length).drop 1))

/-- The path behind a host. A host must be named. -/
def behindHost? (cs : List Char) : Option (List Char) :=
  let isEnd (c : Char) : Bool := isSlash c || endsPath c
  if namesHost (behindLast '@' (cs.takeWhile (! isEnd ·))) then
    let rest := cs.dropWhile (! isEnd ·)
    some (rooted isSlash (if rest.head?.any isSlash then rest.drop 1 else rest))
  else none

/-- The path of an address without a scheme, seen from the root of the site. Two slashes begin
another host. -/
def relative? (cs : List Char) : Option (List Char) :=
  match (cs.takeWhile isSlash).length with
  | 0 => some (rooted isSlash cs)
  | 1 => some (rooted isSlash (cs.drop 1))
  | _ => behindHost? (cs.dropWhile isSlash)

/-- The path of an address on a local disk. Two slashes begin a host, unless a disk is named there.
However many slashes are before the path, it begins with one. -/
def onDisk (cs : List Char) : List Char :=
  let isEnd (c : Char) : Bool := isSlash c || endsPath c
  let path :=
    match cs with
    | a :: b :: rest =>
      if isSlash a && isSlash b then
        if isDisk (rest.takeWhile (! isEnd ·)) then rest else rest.dropWhile (! isEnd ·)
      else cs
    | _ => cs
  '/' :: (rooted isSlash path).dropWhile (· == '/')

/-- What follows a host and its port, which is a number behind a colon. Colons between brackets
belong to the host. -/
def behindPort (cs : List Char) : List Char :=
  let rest := if cs.head? = some '[' then cs.dropWhile (· != ']') else cs
  ((rest.dropWhile (· != ':')).drop 1).dropWhile Char.isDigit

/-- The path behind a host whose scheme the standard does not single out. There may be none. -/
def behindForeignHost (cs : List Char) : List Char :=
  let isEnd (c : Char) : Bool := c == '/' || endsPath c
  let path := behindPort (behindLast '@' (cs.takeWhile (! isEnd ·))) ++ cs.dropWhile (! isEnd ·)
  match path with
  | [] => []
  | '/' :: rest => rooted (· == '/') rest
  | c :: _ => if endsPath c then [] else rooted (· == '/') path

/-- The path of an address whose scheme the standard does not single out. Backslashes mean
nothing there, and a path that begins without a slash has no pieces. -/
def foreign (cs : List Char) : List Char :=
  match cs with
  | '/' :: '/' :: rest => behindForeignHost rest
  | '/' :: rest => rooted (· == '/') rest
  | _ => beforeQuery cs

/-- The schemes, besides the site's own, whose addresses name a host. -/
def hostSchemes : List (List Char) :=
  ["http".toList, "ws".toList, "wss".toList, "ftp".toList]

/-- The path of an address, none if it should name a host and does not. -/
def ofAddress? (address : List Char) : Option (List Char) :=
  let cs := spoken address
  match scheme? cs with
  | none => relative? cs
  | some (scheme, rest) =>
    if scheme = "https".toList then relative? rest
    else if hostSchemes.contains scheme then behindHost? (rest.dropWhile isSlash)
    else if scheme = "file".toList then some (onDisk rest)
    else some (foreign rest)

end JournalSite.UrlPath
