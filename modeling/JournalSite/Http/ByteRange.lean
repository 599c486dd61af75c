import JournalSite.Text.Blank
import JournalSite.Text.Digits

/-!
# Byte ranges

A client can ask for a part of a file: from one byte to another (`bytes=0-9`),
from a byte on (`bytes=300-`) or a number of bytes at the end (`bytes=-5`).
Numbers are written without superfluous zeros. Several ranges may be named, with
commas between them and one blank behind a comma.

Only one range is ever served. Ranges that are malformed, lie outside of the
file or overlap cannot be served, and neither can several at once.
-/

namespace JournalSite.Http

open JournalSite.Text

/-- A range that a client names. -/
inductive RangeSpec where
  /-- From one byte to another, both included. -/
  | between (first last : Nat)
  /-- From a byte on. -/
  | onward (first : Nat)
  /-- So many bytes at the end. -/
  | final (count : Nat)
  deriving DecidableEq, Repr

/-- What comes of asking for ranges of a file. -/
inductive RangeAnswer where
  /-- The whole file is meant. -/
  | whole
  /-- One range is served: from one byte to another, both included. -/
  | part (first last : Nat)
  /-- Nothing can be served. -/
  | unsatisfiable
  /-- Several ranges could be served one by one, but are not together. -/
  | several
  deriving DecidableEq, Repr

namespace RangeSpec

/-- The number a text denotes, if it is written without superfluous zeros and has at most 64
bits. -/
def number? (cs : List Char) : Option Nat :=
  if cs ≠ [] ∧ cs.all Char.isDigit ∧ (cs.length = 1 ∨ cs.head? ≠ some '0') ∧
      digitsValue cs < UInt64.size then some (digitsValue cs)
  else none

/-- The range a text denotes. The last no bytes are no range. -/
def ofChars? (cs : List Char) : Option RangeSpec :=
  match cs.splitOn '-' with
  | [[], count] =>
    match number? count with
    | some 0 => none
    | some count => some (final count)
    | none => none
  | [first, []] => (number? first).map onward
  | [first, last] => do some (between (← number? first) (← number? last))
  | _ => none

/-- A range in a list without the blank before it. Other blanks are not admitted. -/
def unspaced? (cs : List Char) : Option (List Char) :=
  if cs.getLast?.any isBlank ∨ 1 < cs.countP isBlank then none else some (trim cs)

/-- The ranges that a header names. There is no blank before the first. -/
def list? (header : List Char) : Option (List RangeSpec) :=
  match "bytes=".toList.isPrefixOf? header with
  | none => none
  | some text =>
    if text.head?.any isBlank then none
    else (text.splitOn ',').mapM fun piece => (unspaced? piece).bind ofChars?

/-- The first and the last byte of a range in a file of `size` bytes. A range that runs past the
end stops there. -/
def bounds? (size : Nat) : RangeSpec → Option (Nat × Nat)
  | between first last => some (first, min last (size - 1))
  | onward first => some (first, size - 1)
  | final count => if size < count then none else some (size - count, size - 1)

/-- Whether two ranges have a byte in common. -/
def overlap (a b : Nat × Nat) : Bool := a.1 ≤ b.2 && b.1 ≤ a.2

/-- Whether ranges can be served: none ends before it begins, and no two overlap. -/
def areApart : List (Nat × Nat) → Bool
  | [] => true
  | range :: rest => range.1 ≤ range.2 && rest.all (! overlap range ·) && areApart rest

end RangeSpec

/-- What comes of a header that asks for ranges of a file of `size` bytes. -/
def RangeAnswer.ofHeader (size : Nat) (header : Option (List Char)) : RangeAnswer :=
  match header with
  | none => whole
  | some text =>
    match (RangeSpec.list? text).bind (·.mapM (RangeSpec.bounds? size)) with
    | none => unsatisfiable
    | some ranges =>
      if RangeSpec.areApart ranges then
        match ranges with
        | [(first, last)] => part first last
        | _ => several
      else unsatisfiable

end JournalSite.Http
