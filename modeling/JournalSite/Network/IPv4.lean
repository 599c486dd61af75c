import JournalSite.Text.Digits

/-!
# IPv4 addresses

An address is four octets, written in decimal with dots between them. An octet is
written without superfluous zeros, so an address has one written form only.
-/

namespace JournalSite

open JournalSite.Text

/-- An IPv4 address: four octets. -/
structure IPv4 where
  /-- The leading octet. -/
  first : UInt8
  /-- The octet after the first dot. -/
  second : UInt8
  /-- The octet after the second dot. -/
  third : UInt8
  /-- The octet after the third dot. -/
  fourth : UInt8
  deriving DecidableEq, Repr

namespace IPv4

/-- The address of all interfaces, `0.0.0.0`. -/
def unspecified : IPv4 := ⟨0, 0, 0, 0⟩

/-- Whether a text is the numeral of an octet: up to three digits, a zero in front only if it
stands alone, and a number below 256. -/
def IsOctet (cs : List Char) : Prop :=
  cs ≠ [] ∧ cs.length ≤ 3 ∧ (∀ c ∈ cs, c.isDigit = true) ∧ (cs.head? = some '0' → cs = ['0']) ∧
    digitsValue cs < 256

instance (cs : List Char) : Decidable (IsOctet cs) :=
  inferInstanceAs (Decidable (_ ∧ _))

/-- The octet that a numeral denotes. -/
def octet? (cs : List Char) : Option UInt8 :=
  if IsOctet cs then some (UInt8.ofNat (digitsValue cs)) else none

/-- The address a text denotes, if it is four octets with dots between them. -/
def ofChars? (cs : List Char) : Option IPv4 :=
  match cs.splitOn '.' with
  | [a, b, c, d] => do some ⟨← octet? a, ← octet? b, ← octet? c, ← octet? d⟩
  | _ => none

/-- The numeral of an octet. -/
def octetChars (octet : UInt8) : List Char :=
  Nat.toDigits 10 octet.toNat

/-- The written form of an address. -/
def chars (ip : IPv4) : List Char :=
  ['.'].intercalate [octetChars ip.first, octetChars ip.second, octetChars ip.third,
    octetChars ip.fourth]

end IPv4

end JournalSite
