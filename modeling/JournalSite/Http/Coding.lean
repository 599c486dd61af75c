import JournalSite.Http.Message
import JournalSite.Text.Blank
import JournalSite.Text.Digits

/-!
# Compression

A client names the codings it can undo, each with a weight if it likes: `gzip`,
`gzip;q=0.5`. The coding of the greatest weight is used, and gzip if it comes out
even; the weight zero rules a coding out. Codings other than gzip and none at all
are passed over, and so is a coding with a malformed weight.

Small answers are not worth compressing, and a part of a file cannot be
compressed on its own. An answer that could be compressed says that it depends on
what the client accepts.
-/

namespace JournalSite.Http

open JournalSite.Text

/-- A way to write the bytes of a body. -/
inductive Coding where
  /-- As they are. -/
  | identity
  /-- Compressed by gzip. -/
  | gzip
  deriving DecidableEq, Repr

namespace Coding

/-- The coding with a name, in either case. -/
def named? (name : List Char) : Option Coding :=
  let lower := name.map Char.toLower
  if lower = "gzip".toList ∨ lower = "x-gzip".toList then some gzip
  else if lower = "identity".toList then some identity
  else none

/-- The weight that a text such as `q=0.5` gives, in thousandths. It is written with one digit
before the point and at most three behind it, and is at most one. -/
def weight? (cs : List Char) : Option Nat :=
  match cs with
  | q :: '=' :: unit :: rest =>
    if (q = 'q' ∨ q = 'Q') ∧ (unit = '0' ∨ unit = '1') then
      let thousandths := 1000 * digitsValue [unit]
      match rest with
      | [] => some thousandths
      | '.' :: digits =>
        let total :=
          thousandths + digitsValue digits * Nat.pow 10 (3 - digits.length)
        if digits.all Char.isDigit ∧ digits.length ≤ 3 ∧ total ≤ 1000 then some total else none
      | _ => none
    else none
  | _ => none

/-- A coding and its weight, as a client names them. -/
def offer? (cs : List Char) : Option (Coding × Nat) := do
  let coding ← named? (trim (cs.takeWhile (· != ';')))
  match cs.dropWhile (· != ';') with
  | [] => some (coding, 1000)
  | _ :: parameters => some (coding, ← weight? (trim parameters))

/-- The codings that a client names, in as many headers as it likes. -/
def offers (headers : List (List Char)) : List (Coding × Nat) :=
  headers.flatMap fun text => (text.splitOn ',').filterMap offer?

/-- The greatest weight a coding has, 0 if it is not named. -/
def weightIn (offers : List (Coding × Nat)) (coding : Coding) : Nat :=
  offers.foldl (fun greatest offer => if offer.1 = coding then max greatest offer.2 else greatest) 0

/-- The coding used for a client. -/
def preferred (headers : List (List Char)) : Coding :=
  let named := offers headers
  if 0 < weightIn named gzip ∧ weightIn named identity ≤ weightIn named gzip then gzip
  else identity

end Coding

/-- The least number of bytes that are worth compressing. -/
def leastCompressed : Nat := 32

/-- Whether an answer could be compressed. -/
def Response.isCompressible (r : Response) : Bool :=
  match r.body with
  | .plain bytes => leastCompressed ≤ bytes.length && (r.header? "content-range").isNone
  | .compressed _ => false

/-- The answer as it is sent to a client that accepts some codings. -/
def Response.coded (r : Response) (accepted : List (List Char)) : Response :=
  match r.body with
  | .compressed _ => r
  | .plain bytes =>
    if r.isCompressible then
      let varied := r.addHeader "vary" "accept-encoding"
      match Coding.preferred accepted with
      | .identity => varied
      | .gzip =>
        let coded := (varied.dropHeader "content-length").dropHeader "accept-ranges"
        { coded.addHeader "content-encoding" "gzip" with body := .compressed bytes }
    else r

end JournalSite.Http
