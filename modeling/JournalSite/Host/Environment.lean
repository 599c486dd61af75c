import JournalSite.Text.Bytes
import JournalSite.Text.Quoted

/-!
# The environment

A process is started with named settings. A value is made of bytes and need not
be text; who asks for a text can tell a setting that is missing from one that is
no text.
-/

namespace JournalSite

open JournalSite.Text

/-- The settings a process is started with. -/
structure Environment where
  /-- Names and values; of two values of one name the earlier is in force. -/
  entries : List (String × List UInt8)
  deriving DecidableEq, Repr

/-- What the environment says under a name. -/
inductive Setting where
  /-- The name is not set. -/
  | unset
  /-- The name is set to a text. -/
  | text (value : String)
  /-- The name is set to bytes that are no text. -/
  | noText (value : List UInt8)
  deriving DecidableEq, Repr

namespace Environment

/-- The bytes a name is set to. -/
def bytes? (env : Environment) (name : String) : Option (List UInt8) :=
  env.entries.lookup name

/-- What the environment says under a name. -/
def setting (env : Environment) (name : String) : Setting :=
  match env.bytes? name with
  | none => .unset
  | some value =>
    match ofUtf8? value with
    | some s => .text s
    | none => .noText value

/-- The text a name is set to; none also if the value is no text. -/
def text? (env : Environment) (name : String) : Option String :=
  match env.setting name with
  | .text value => some value
  | .unset => none
  | .noText _ => none

/-- The environment in which a name is set to a text, whatever it was set to before. -/
def set (env : Environment) (name value : String) : Environment :=
  ⟨(name, utf8 value) :: env.entries⟩

/-- The name and the value of an entry, which are parted by the first equals sign. -/
def entry? (bytes : List UInt8) : Option (String × List UInt8) :=
  let equals : UInt8 := 61
  match bytes.dropWhile (· != equals) with
  | [] => none
  | _ :: value => (ofUtf8? (bytes.takeWhile (· != equals))).map fun name => (name, value)

/-- The environment that a block of entries describes. A zero byte follows each entry. -/
def ofBlock (block : List UInt8) : Environment :=
  ⟨(block.splitOn 0).filterMap entry?⟩

@[simp] theorem bytes?_set_self (env : Environment) (name value : String) :
    (env.set name value).bytes? name = some (utf8 value) := by
  simp [bytes?, set]

theorem bytes?_set_of_ne (env : Environment) {name other : String} (value : String)
    (h : other ≠ name) : (env.set name value).bytes? other = env.bytes? other := by
  have hne : (other == name) = false := by simpa using h
  simp [bytes?, set, List.lookup_cons, hne]

end Environment

/-- A byte that is part of no character, written by its number: `\x` and two hexadecimal digits in
upper case. -/
def strayByteChars (b : UInt8) : List Char :=
  let digit (n : Nat) : Char := (Nat.digitChar n).toUpper
  ['\\', 'x', digit (b.toNat / 16), digit (b.toNat % 16)]

/-- A piece of a value that is no text, as it stands in a message between double quotes. -/
def quotedPiece : Utf8Piece → List Char
  | .char c => quotedChar c
  | .stray b => strayByteChars b

/-- Bytes that are no text between double quotes. -/
def quotedBytes (bytes : List UInt8) : String :=
  String.ofList ('"' :: ((utf8Pieces bytes).flatMap quotedPiece ++ ['"']))

end JournalSite
