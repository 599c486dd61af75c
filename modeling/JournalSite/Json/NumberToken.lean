import JournalSite.Json.Basic
import JournalSite.Number.Shortest
import JournalSite.Text.Digits

/-!
# JSON numbers

A number is a sign, digits without a needless zero in front, and perhaps a
fraction and an exponent. Without these two it is an integer, as long as it fits a
word of 64 bits. Any other number is a double-precision one. Of its digits only as
many count as fit a word of 64 bits together; the rest of those before the point
move the point, and the rest of those after it are dropped.
-/

namespace JournalSite.Json

/-- A number in the parts that it is written in. -/
structure NumberToken where
  /-- Whether there is a minus sign. -/
  negative : Bool
  /-- The digits before the point. -/
  whole : List Char
  /-- The digits after the point, if there is one. -/
  fraction : List Char
  /-- The exponent, if there is one: whether it is negative, and its digits. -/
  exponent : Option (Bool × List Char)
  /-- Whether there is neither a point nor an exponent. -/
  isWhole : Bool
  deriving DecidableEq, Repr

/-- All digits that a text begins with. -/
def allDigits (cs : List Char) : List Char :=
  Text.digitRun cs.length cs

/-- What is wrong where a digit is missing. -/
def missingDigit (cs : List Char) : Fault :=
  if cs.isEmpty then .endsEarly else .badSyntax

/-- Reads digits, one at least. -/
def readDigits (cs : List Char) : Reading (List Char) :=
  let digits := allDigits cs
  if digits.isEmpty then .error (missingDigit cs) else .ok (digits, cs.drop digits.length)

/-- Reads the digits before the point. A zero stands alone. -/
def readWhole (cs : List Char) : Except Fault (List Char × List Char) := do
  let (digits, rest) ← readDigits cs
  if digits.head? = some '0' ∧ 1 < digits.length then .error .badSyntax else .ok (digits, rest)

/-- Reads a point and the digits after it, if there is a point. -/
def readFraction : List Char → Reading (Option (List Char))
  | '.' :: rest => (readDigits rest).map fun (digits, rest) => (some digits, rest)
  | cs => .ok (none, cs)

/-- Reads the sign of an exponent, if there is one. Tells whether it is a minus sign. -/
def readSign : List Char → Bool × List Char
  | '+' :: rest => (false, rest)
  | '-' :: rest => (true, rest)
  | cs => (false, cs)

/-- Reads an exponent, if there is one. -/
def readExponent : List Char → Reading (Option (Bool × List Char))
  | c :: rest =>
    if c = 'e' ∨ c = 'E' then
      (readDigits (readSign rest).2).map fun (digits, after) =>
        (some ((readSign rest).1, digits), after)
    else .ok (none, c :: rest)
  | [] => .ok (none, [])

/-- Reads a number after its sign. -/
def readUnsigned (negative : Bool) (cs : List Char) :
    Except Fault (NumberToken × List Char) := do
  let (whole, rest) ← readWhole cs
  let (fraction, rest) ← readFraction rest
  let (exponent, rest) ← readExponent rest
  .ok (⟨negative, whole, fraction.getD [], exponent, fraction.isNone && exponent.isNone⟩, rest)

/-- Reads a number that begins with a minus sign or a digit. -/
def readNumber : List Char → Except Fault (NumberToken × List Char)
  | '-' :: rest => readUnsigned true rest
  | cs => readUnsigned false cs

/-- Skips a number. One that ends too early is bad syntax here. -/
def skipNumber (cs : List Char) : Except Fault (List Char) :=
  match readNumber cs with
  | .ok (_, rest) => .ok rest
  | .error _ => .error .badSyntax

/-! ### A number is not empty -/

theorem length_readDigits_lt {cs digits rest : List Char} (h : readDigits cs = .ok (digits, rest)) :
    rest.length < cs.length := by
  unfold readDigits at h
  simp only at h
  split at h
  · cases h
  · next hne =>
    simp only [Except.ok.injEq, Prod.mk.injEq] at h
    obtain ⟨-, rfl⟩ := h
    have hpos : 0 < (allDigits cs).length :=
      List.length_pos_iff.2 fun he => hne (by simp [he])
    have hle : (allDigits cs).length ≤ cs.length := Text.length_digitRun_le _ _
    rw [List.length_drop]
    omega

theorem length_readWhole_lt {cs digits rest : List Char} (h : readWhole cs = .ok (digits, rest)) :
    rest.length < cs.length := by
  unfold readWhole at h
  cases hd : readDigits cs with
  | error e => rw [hd] at h; cases h
  | ok p =>
    obtain ⟨ds, r⟩ := p
    have hlt := length_readDigits_lt hd
    rw [hd] at h
    simp only [bind, Except.bind] at h
    split at h
    · cases h
    · simp only [Except.ok.injEq, Prod.mk.injEq] at h
      obtain ⟨-, rfl⟩ := h
      exact hlt

theorem length_readFraction_le {cs rest : List Char} {fraction : Option (List Char)}
    (h : readFraction cs = .ok (fraction, rest)) : rest.length ≤ cs.length := by
  unfold readFraction at h
  split at h
  · next r =>
    cases hd : readDigits r with
    | error e => rw [hd] at h; cases h
    | ok p =>
      have := length_readDigits_lt hd
      rw [hd] at h
      cases h
      simp only [List.length_cons]
      omega
  · simp only [Except.ok.injEq, Prod.mk.injEq] at h
    obtain ⟨-, rfl⟩ := h
    exact Nat.le_refl _

theorem length_readSign_le (cs : List Char) : (readSign cs).2.length ≤ cs.length := by
  unfold readSign
  split <;> simp

theorem length_readExponent_le {cs rest : List Char} {exponent : Option (Bool × List Char)}
    (h : readExponent cs = .ok (exponent, rest)) : rest.length ≤ cs.length := by
  unfold readExponent at h
  split at h
  · next c r =>
    split at h
    · have hle := length_readSign_le r
      cases hd : readDigits (readSign r).2 with
      | error e => rw [hd] at h; cases h
      | ok p =>
        have := length_readDigits_lt hd
        rw [hd] at h
        cases h
        simp only [List.length_cons]
        omega
    · cases h
      exact Nat.le_refl _
  · cases h
    exact Nat.le_refl _

theorem length_readUnsigned_lt {negative : Bool} {cs rest : List Char} {t : NumberToken}
    (h : readUnsigned negative cs = .ok (t, rest)) : rest.length < cs.length := by
  unfold readUnsigned at h
  cases hw : readWhole cs with
  | error e => rw [hw] at h; cases h
  | ok p =>
    rw [hw] at h
    simp only [bind, Except.bind] at h
    cases hf : readFraction p.2 with
    | error e => rw [hf] at h; cases h
    | ok q =>
      rw [hf] at h
      simp only at h
      cases he : readExponent q.2 with
      | error e => rw [he] at h; cases h
      | ok r =>
        rw [he] at h
        simp only [Except.ok.injEq, Prod.mk.injEq] at h
        obtain ⟨-, rfl⟩ := h
        have h1 := length_readWhole_lt hw
        have h2 := length_readFraction_le hf
        have h3 := length_readExponent_le he
        omega

theorem length_readNumber_lt {cs rest : List Char} {t : NumberToken}
    (h : readNumber cs = .ok (t, rest)) : rest.length < cs.length := by
  unfold readNumber at h
  split at h
  · have := length_readUnsigned_lt h
    simp only [List.length_cons]
    omega
  · exact length_readUnsigned_lt h

theorem length_skipNumber_lt {cs rest : List Char} (h : skipNumber cs = .ok rest) :
    rest.length < cs.length := by
  unfold skipNumber at h
  split at h
  · next hn =>
    cases h
    exact length_readNumber_lt hn
  · cases h

/-! ### The value of a number -/

/-- Takes digits into a significand as long as it fits a word of 64 bits. Gives the significand
and the digits that are left. -/
def absorb (significand : Nat) : List Char → Nat × List Char
  | [] => (significand, [])
  | d :: ds =>
    let next := significand * 10 + (d.toNat - '0'.toNat)
    if next < UInt64.size then absorb next ds else (significand, d :: ds)

/-- The value of a number that is no integer, without its sign, and none if it is too large. -/
def NumberToken.magnitude? (t : NumberToken) : Option Binary64 :=
  let (significand, movedDigits) := absorb 0 t.whole
  let (significand, droppedDigits) := absorb significand t.fraction
  let places : Int :=
    (movedDigits.length : Int) - ((t.fraction.length : Int) - droppedDigits.length)
  match t.exponent with
  | none => Binary64.ofScaled significand places
  | some (negative, digits) =>
    let exponent := Text.digitsValue digits
    if exponent ≤ 2147483647 then
      Binary64.ofScaled significand (if negative then places - exponent else places + exponent)
    else if significand = 0 ∨ negative then some ⟨0, 0⟩
    else none

/-- The number as a value in the wrong place, and none if it is too large for a number. -/
def NumberToken.found? (t : NumberToken) : Option Found :=
  let n := Text.digitsValue t.whole
  if t.isWhole ∧ !t.negative ∧ n < UInt64.size then some (.integer n)
  else if t.isWhole ∧ t.negative ∧ 0 < n ∧ n ≤ UInt64.size / 2 then some (.integer (-(n : Int)))
  else
    t.magnitude?.map fun x => .floating ((if t.negative then "-" else "") ++ x.text)

end JournalSite.Json
