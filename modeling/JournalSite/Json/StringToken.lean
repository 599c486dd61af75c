import JournalSite.Json.Basic
import JournalSite.Text.Bytes
import JournalSite.Text.Digits

/-!
# JSON strings

A string stands between quote marks; inside, a backslash begins an escape. A
character outside the first 65536 is escaped as a pair of surrogates, which mean
nothing alone.

A string that matters is read (`readString`) and its escapes are resolved. A
string that does not matter is skipped (`skipString`): its escapes must be well
formed, but surrogates need no partner.

Writing escapes as little as it can: quote mark, backslash and the control
characters below the space.
-/

namespace JournalSite.Json

open JournalSite.Text

/-- Reads the four hexadecimal digits of an escape. With fewer than four bytes left the text ends
too early, whatever those are. -/
def readUnit (cs : List Char) : Reading Nat :=
  if byteCount (cs.take 4) < 4 then .error .endsEarly
  else
    match cs with
    | a :: b :: c :: d :: rest =>
      match hexValue? a, hexValue? b, hexValue? c, hexValue? d with
      | some a, some b, some c, some d => .ok (((a * 16 + b) * 16 + c) * 16 + d, rest)
      | _, _, _, _ => .error .badSyntax
    | _ => .error .badSyntax

/-- Whether a unit is the first of a surrogate pair. -/
def isLeading (unit : Nat) : Bool := 0xD800 ≤ unit && unit ≤ 0xDBFF

/-- Whether a unit is the second of a surrogate pair. -/
def isTrailing (unit : Nat) : Bool := 0xDC00 ≤ unit && unit ≤ 0xDFFF

/-- The character that a surrogate pair stands for. -/
def pairChar (leading trailing : Nat) : Char :=
  Char.ofNat (0x10000 + (leading - 0xD800) * 0x400 + (trailing - 0xDC00))

/-- Reads a character escaped by its number. The leading surrogate of a pair must be followed by
an escape of the trailing one. -/
def readNumberedChar (cs : List Char) : Except Fault (Char × List Char) := do
  let (unit, rest) ← readUnit cs
  if isTrailing unit then .error .badSyntax
  else if isLeading unit then
    match rest with
    | [] => .error .endsEarly
    | ['\\'] => .error .endsEarly
    | '\\' :: 'u' :: rest => do
      let (second, rest) ← readUnit rest
      if isTrailing second then .ok (pairChar unit second, rest) else .error .badSyntax
    | _ => .error .badSyntax
  else .ok (Char.ofNat unit, rest)

/-- The character that a one-letter escape stands for. -/
def shortEscape? (c : Char) : Option Char :=
  match c with
  | '"' => some '"'
  | '\\' => some '\\'
  | '/' => some '/'
  | 'b' => some '\x08'
  | 'f' => some '\x0c'
  | 'n' => some '\n'
  | 'r' => some '\r'
  | 't' => some '\t'
  | _ => none

/-- Reads what stands next inside a string: a character, or none for the closing quote mark. -/
def readStringItem (cs : List Char) : Reading (Option Char) :=
  match cs with
  | [] => .error .endsEarly
  | '"' :: rest => .ok (none, rest)
  | ['\\'] => .error .endsEarly
  | '\\' :: 'u' :: rest => (readNumberedChar rest).map fun (c, rest) => (some c, rest)
  | '\\' :: e :: rest =>
    match shortEscape? e with
    | some c => .ok (some c, rest)
    | none => .error .badSyntax
  | c :: rest => if c.toNat < 0x20 then .error .badSyntax else .ok (some c, rest)

theorem length_readUnit_lt {cs rest : List Char} {n : Nat} (h : readUnit cs = .ok (n, rest)) :
    rest.length < cs.length := by
  unfold readUnit at h
  split at h
  · cases h
  split at h
  · split at h
    · cases h
      simp only [List.length_cons]
      omega
    · cases h
  · cases h

theorem length_readNumberedChar_lt {cs rest : List Char} {c : Char}
    (h : readNumberedChar cs = .ok (c, rest)) : rest.length < cs.length := by
  unfold readNumberedChar at h
  cases hu : readUnit cs with
  | error e => rw [hu] at h; cases h
  | ok p =>
    obtain ⟨unit, mid⟩ := p
    have hlt := length_readUnit_lt hu
    rw [hu] at h
    simp only [bind, Except.bind] at h
    split at h
    · cases h
    split at h
    · split at h
      · cases h
      · cases h
      · next r =>
        cases hv : readUnit r with
        | error e => rw [hv] at h; cases h
        | ok q =>
          obtain ⟨second, last⟩ := q
          have hlt' := length_readUnit_lt hv
          rw [hv] at h
          simp only at h
          split at h
          · simp only [Except.ok.injEq, Prod.mk.injEq] at h
            obtain ⟨-, rfl⟩ := h
            simp only [List.length_cons] at hlt
            omega
          · cases h
      · cases h
    · simp only [Except.ok.injEq, Prod.mk.injEq] at h
      obtain ⟨-, rfl⟩ := h
      exact hlt

theorem length_readStringItem_lt {cs rest : List Char} {item : Option Char}
    (h : readStringItem cs = .ok (item, rest)) : rest.length < cs.length := by
  unfold readStringItem at h
  split at h
  · cases h
  · cases h
    simp
  · cases h
  · next r =>
    cases hn : readNumberedChar r with
    | error e => rw [hn] at h; cases h
    | ok p =>
      have := length_readNumberedChar_lt hn
      rw [hn] at h
      cases h
      simp only [List.length_cons]
      omega
  · split at h
    · cases h
      simp only [List.length_cons]
      omega
    · cases h
  · split at h
    · cases h
    · cases h
      simp

/-- Reads the characters of a string up to its closing quote mark. -/
def readChars (cs : List Char) : Reading (List Char) :=
  match _h : readStringItem cs with
  | .error fault => .error fault
  | .ok (none, rest) => .ok ([], rest)
  | .ok (some c, rest) => (readChars rest).map fun (value, rest) => (c :: value, rest)
termination_by cs.length
decreasing_by exact length_readStringItem_lt _h

/-- Reads a string after its opening quote mark. -/
def readString (cs : List Char) : Reading String :=
  (readChars cs).map fun (value, rest) => (String.ofList value, rest)

/-- Skips what stands next inside a string. The answer is whether the string goes on. -/
def skipStringItem (cs : List Char) : Reading Bool :=
  match cs with
  | [] => .error .endsEarly
  | '"' :: rest => .ok (false, rest)
  | ['\\'] => .error .endsEarly
  | '\\' :: 'u' :: rest => (readUnit rest).map fun (_, rest) => (true, rest)
  | '\\' :: e :: rest =>
    match shortEscape? e with
    | some _ => .ok (true, rest)
    | none => .error .badSyntax
  | c :: rest => if c.toNat < 0x20 then .error .badSyntax else .ok (true, rest)

theorem length_skipStringItem_lt {cs rest : List Char} {more : Bool}
    (h : skipStringItem cs = .ok (more, rest)) : rest.length < cs.length := by
  unfold skipStringItem at h
  split at h
  · cases h
  · cases h
    simp
  · cases h
  · next r =>
    cases hn : readUnit r with
    | error e => rw [hn] at h; cases h
    | ok p =>
      have := length_readUnit_lt hn
      rw [hn] at h
      cases h
      simp only [List.length_cons]
      omega
  · split at h
    · cases h
      simp only [List.length_cons]
      omega
    · cases h
  · split at h
    · cases h
    · cases h
      simp

/-- Skips a string after its opening quote mark. -/
def skipString (cs : List Char) : Except Fault (List Char) :=
  match _h : skipStringItem cs with
  | .error fault => .error fault
  | .ok (false, rest) => .ok rest
  | .ok (true, rest) => skipString rest
termination_by cs.length
decreasing_by exact length_skipStringItem_lt _h

theorem length_readChars_lt {cs rest value : List Char} (h : readChars cs = .ok (value, rest)) :
    rest.length < cs.length := by
  fun_induction readChars cs generalizing value rest with
  | case1 => cases h
  | case2 cs r hi =>
    cases h
    exact length_readStringItem_lt hi
  | case3 cs c r hi ih =>
    cases hr : readChars r with
    | error e => rw [hr] at h; cases h
    | ok p =>
      have := ih hr
      have := length_readStringItem_lt hi
      rw [hr] at h
      cases h
      omega

theorem length_readString_lt {cs rest : List Char} {value : String}
    (h : readString cs = .ok (value, rest)) : rest.length < cs.length := by
  unfold readString at h
  cases hr : readChars cs with
  | error e => rw [hr] at h; cases h
  | ok p =>
    have := length_readChars_lt hr
    rw [hr] at h
    cases h
    exact this

theorem length_skipString_lt {cs rest : List Char} (h : skipString cs = .ok rest) :
    rest.length < cs.length := by
  fun_induction skipString cs with
  | case1 => cases h
  | case2 cs r hi =>
    cases h
    exact length_skipStringItem_lt hi
  | case3 cs r hi ih => exact Nat.lt_trans (ih h) (length_skipStringItem_lt hi)

/-! ### Writing -/

/-- A character as a string holds it in writing. -/
def writtenChar (c : Char) : List Char :=
  match c with
  | '"' => ['\\', '"']
  | '\\' => ['\\', '\\']
  | '\x08' => ['\\', 'b']
  | '\x0c' => ['\\', 'f']
  | '\n' => ['\\', 'n']
  | '\r' => ['\\', 'r']
  | '\t' => ['\\', 't']
  | c =>
    if c.toNat < 0x20 then
      ['\\', 'u', '0', '0', Nat.digitChar (c.toNat / 16), Nat.digitChar (c.toNat % 16)]
    else [c]

/-- A string in writing, with its quote marks. -/
def writtenString (value : String) : List Char :=
  '"' :: (value.toList.flatMap writtenChar ++ ['"'])

end JournalSite.Json
