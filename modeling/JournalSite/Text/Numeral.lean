import JournalSite.Text.Digits

/-!
# Numerals with a limit

A setting that is a number is written in decimal digits, with one `+` in front if
one likes and as many leading zeros as one likes. The number must not pass a
limit. Digits are read from left to right and the first thing that is wrong is
the one reported; at one and the same character, that it is no digit comes before
that the number has grown too large.
-/

namespace JournalSite.Text

/-- Why a text is not a number within its limit. -/
inductive NumeralFault where
  /-- There is nothing to read. -/
  | empty
  /-- A character is no digit. -/
  | badDigit
  /-- The number is above the limit. -/
  | tooLarge
  deriving DecidableEq, Repr

/-- The fault in words. -/
def NumeralFault.message : NumeralFault → String
  | empty => "cannot parse integer from empty string"
  | badDigit => "invalid digit found in string"
  | tooLarge => "number too large to fit in target type"

/-- Reads digits on top of `n`, the number that the digits before them make. -/
def readDigits (limit n : Nat) : List Char → Except NumeralFault Nat
  | [] => .ok n
  | c :: cs =>
    if c.isDigit then
      let grown := n * 10 + (c.toNat - '0'.toNat)
      if limit < grown then .error .tooLarge else readDigits limit grown cs
    else .error .badDigit

/-- The digits of a numeral: what follows its sign, unless the sign stands alone. -/
def afterPlus : List Char → List Char
  | '+' :: c :: cs => c :: cs
  | cs => cs

/-- The number within `limit` that a text denotes. -/
def readNumeral (limit : Nat) (cs : List Char) : Except NumeralFault Nat :=
  if cs.isEmpty then .error .empty else readDigits limit 0 (afterPlus cs)

end JournalSite.Text
