import JournalSite.Http.Target
import JournalSite.Text.Bytes

/-!
# Requests and responses

A request has a method, a target and headers; a response has a status, headers
and a body. The body is bytes. When it is sent compressed, what is kept of it are
the bytes before compression.
-/

namespace JournalSite.Http

open JournalSite.Text

/-- A name, in lower case, and what is said under it. -/
abbrev Header := String × String

/-- What a client asks. -/
structure Request where
  /-- What is to be done. -/
  method : String
  /-- What it is to be done with. -/
  target : Target
  /-- What else the client says. -/
  headers : List Header
  deriving DecidableEq, Repr

namespace Request

/-- Whether a request asks for a representation, or for what would be said about one. -/
def isReading (r : Request) : Bool :=
  r.method == "GET" || r.method == "HEAD"

/-- All that the client says under a name. -/
def allHeaders (r : Request) (name : String) : List String :=
  (r.headers.filter (·.1 == name)).map (·.2)

/-- What the client says under a name, the first if it says several things. -/
def header? (r : Request) (name : String) : Option String :=
  (r.allHeaders name).head?

/-- Whether a character may stand in a header that is read as text. -/
def isVisible (c : Char) : Bool :=
  c == '\t' || (0x20 ≤ c.toNat && c.toNat < 0x7F)

/-- What the client says under a name, if it is visible text. -/
def visibleHeader? (r : Request) (name : String) : Option (List Char) :=
  ((r.header? name).map String.toList).filter (·.all isVisible)

/-- All that the client says under a name in visible text. -/
def visibleHeaders (r : Request) (name : String) : List (List Char) :=
  ((r.allHeaders name).map String.toList).filter (·.all isVisible)

end Request

/-- The body of a response. -/
inductive Body where
  /-- Bytes that are sent as they are. -/
  | plain (bytes : List UInt8)
  /-- Bytes that are sent compressed. -/
  | compressed (bytes : List UInt8)
  deriving DecidableEq, Repr

/-- What the server answers. -/
structure Response where
  /-- How it went. -/
  status : Nat
  /-- What is said about the answer. -/
  headers : List Header
  /-- The answer itself. -/
  body : Body
  deriving DecidableEq, Repr

namespace Response

/-- What is said under a name. -/
def header? (r : Response) (name : String) : Option String :=
  r.headers.lookup name

/-- An answer without a body. -/
def bare (status : Nat) (headers : List Header) : Response :=
  ⟨status, headers, .plain []⟩

/-- The answer without what it says under a name. -/
def dropHeader (r : Response) (name : String) : Response :=
  { r with headers := r.headers.filter (·.1 != name) }

/-- The answer with one more thing said about it. -/
def addHeader (r : Response) (name value : String) : Response :=
  { r with headers := r.headers ++ [(name, value)] }

/-- The answer with one more thing said about it, unless it is said already. -/
def addHeaderIfMissing (r : Response) (name value : String) : Response :=
  if (r.header? name).isSome then r else r.addHeader name value

/-- The answer without its body, as it is given to who asks only what would be said. -/
def withoutBody (r : Response) : Response :=
  { r with body := match r.body with
      | .plain _ => .plain []
      | .compressed _ => .compressed [] }

end Response

/-- The methods that are answered. -/
def allowed : Header := ("allow", "GET,HEAD")

end JournalSite.Http
