import JournalSite.Http.ByteRange
import JournalSite.Http.Message
import JournalSite.Http.Moment
import JournalSite.Text.Bytes
import JournalSite.Web.FileTree

/-!
# Serving static files

A path is looked up in a tree of files name by name, after its percent codes are
resolved; it can never leave the tree, for a name that leads upward is refused.
A directory is asked for with a slash at the end and is then shown by its
`index.html`; without the slash the client is sent to the path that has it. A
path that cannot be asked for is a failure of the server.

What is sent of a file depends on the client: nothing if it has the file already,
a part of it if it asks for one. A client that asks only what would be said gets
the headers without the bytes.
-/

namespace JournalSite.StaticFiles

open JournalSite.Http JournalSite.Text

/-- The names a path leads through, from the root of the tree; none if it is no text or would
leave the tree. Empty names and single dots lead nowhere. -/
def names? (path : List Char) : Option (List String) := do
  let text ← ofUtf8? (percentDecoded (path.dropWhile (· == '/')))
  let pieces := text.toList.splitOn '/'
  if text.toList.head? = some '/' ∨ ['.', '.'] ∈ pieces then none
  else some ((pieces.filter fun piece => piece ≠ [] ∧ piece ≠ ['.']).map String.ofList)

/-- The answer when there is no such file. -/
def missing : Response := .bare 404 []

/-- The answer when the server cannot ask for a file or cannot write its answer. -/
def failed : Response := .bare 500 []

/-- Whether the client has what it asks for, or asks for it only in an older state. The earlier
question goes first. -/
def precondition (r : Request) (modified : Int) : Option Response :=
  let unmodifiedSince := (r.header? "if-unmodified-since").bind readMoment?
  let modifiedSince := (r.header? "if-modified-since").bind readMoment?
  if unmodifiedSince.any (· < modified) then some (.bare 412 [])
  else if modifiedSince.any (modified ≤ ·) then some (.bare 304 [])
  else none

/-- The numerals in a header that says which bytes are sent. -/
def rangeText (first last size : Nat) : String :=
  "bytes " ++ decimal first ++ "-" ++ decimal last ++ "/" ++ decimal size

/-- What a client is told that asked for ranges it cannot have. -/
def severalRanges : String := "Cannot serve multipart range requests"

/-- The answer with a file or a part of it. Only a client that reads the bytes is sent them. -/
def content (r : Request) (f : StaticFile) : Response :=
  let size := f.content.length
  let common : List Header := [("content-type", f.contentType), ("accept-ranges", "bytes")]
  let unserved : List Header := common ++ [("content-range", "bytes */" ++ decimal size)]
  let sent (bytes : List UInt8) : Body := .plain (if r.method = "HEAD" then [] else bytes)
  match RangeAnswer.ofHeader size (r.visibleHeader? "range") with
  | .whole => ⟨200, common ++ [("content-length", decimal size)], sent f.content⟩
  | .part first last =>
    let bytes := (f.content.drop first).take (last + 1 - first)
    ⟨206, common ++ [("content-range", rangeText first last size),
      ("content-length", decimal bytes.length)], sent bytes⟩
  | .unsatisfiable => ⟨416, unserved, .plain []⟩
  | .several => ⟨416, unserved, .plain (utf8 severalRanges)⟩

/-- The answer with a file, unless the client has it. -/
def file (r : Request) (f : StaticFile) : Response :=
  (precondition r f.modified).getD (content r f)

/-- The answer when a path leads nowhere. A name with a zero character is found out only by who
would read its file, to whom it is like any other that is not there. -/
def fault (r : Request) : PathFault → Response
  | .missing => missing
  | .tooLong => failed
  | .zero => if r.method = "HEAD" then failed else missing

/-- The answer with what lies at the path of a request. -/
def found (r : Request) : FileTree → Response
  | .file f => file r f
  | .directory entries =>
    if r.target.path.getLast? = some '/' then
      match (FileTree.directory entries).find ["index.html"] with
      | .ok (.file f) => file r f
      | _ => missing
    else
      match r.target.slashed? with
      | some target => .bare 307 [("location", String.ofList target.chars)]
      | none => failed

/-- The answer of a directory to a request. -/
def serve (d : ServedDirectory) (r : Request) : Response :=
  if r.isReading then
    match names? r.target.path with
    | none => missing
    | some names =>
      match d.find names with
      | .ok entry => found r entry
      | .error f => fault r f
  else .bare 405 [allowed]

end JournalSite.StaticFiles
