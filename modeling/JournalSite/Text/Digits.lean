/-!
# Numerals

Decimal numerals are runs of the ASCII digits `0` to `9`; digits of other scripts
are none. `padded` writes a number in at least so many digits, `digitRun` cuts
the numeral off the front of a text, and `Nat.ofDigitChars 10` of the core
library is its value.

Hexadecimal numerals have the letters `a` to `f` for the digits above nine.
Letters are read in either case and written in lower case.
-/

namespace JournalSite.Text

/-! ### In base ten -/

/-- The decimal digits of `n`, with zeros in front up to `width` of them. -/
def padded (width n : Nat) : List Char :=
  List.replicate (width - (Nat.toDigits 10 n).length) '0' ++ Nat.toDigits 10 n

/-- The digits a text begins with, `width` of them at most. -/
def digitRun (width : Nat) (cs : List Char) : List Char :=
  (cs.take width).takeWhile Char.isDigit

/-- The number that a run of decimal digits denotes. -/
def digitsValue (digits : List Char) : Nat :=
  Nat.ofDigitChars 10 digits 0

/-- A number in decimal digits, without padding. -/
def decimal (n : Nat) : String :=
  String.ofList (Nat.toDigits 10 n)

theorem mem_digitRun {width : Nat} {cs : List Char} {c : Char} (h : c ∈ digitRun width cs) :
    c.isDigit = true := by
  unfold digitRun at h
  exact (List.all_eq_true.1 (List.all_takeWhile)) c h

theorem length_digitRun_le (width : Nat) (cs : List Char) : (digitRun width cs).length ≤ width :=
  Nat.le_trans (List.takeWhile_sublist _).length_le (List.length_take_le width cs)

@[simp] theorem digitsValue_toDigits (n : Nat) : digitsValue (Nat.toDigits 10 n) = n := by
  simp [digitsValue]

/-- Padding does not change what a numeral denotes. -/
@[simp] theorem digitsValue_padded (width n : Nat) : digitsValue (padded width n) = n := by
  simp [digitsValue, padded, Nat.ofDigitChars_append]

/-! ### In base sixteen -/

/-- The value of a hexadecimal digit. -/
def hexValue? (c : Char) : Option Nat :=
  if '0' ≤ c ∧ c ≤ '9' then some (c.toNat - '0'.toNat)
  else if 'a' ≤ c ∧ c ≤ 'f' then some (c.toNat - 'a'.toNat + 10)
  else if 'A' ≤ c ∧ c ≤ 'F' then some (c.toNat - 'A'.toNat + 10)
  else none

/-- The number a list of hexadecimal digits denotes. -/
def hexNumber? (cs : List Char) : Option Nat :=
  (cs.mapM hexValue?).map fun digits => digits.foldl (fun n digit => n * 16 + digit) 0

/-- A number in hexadecimal digits. -/
def hexDigits (n : Nat) : List Char :=
  Nat.toDigits 16 n

end JournalSite.Text
