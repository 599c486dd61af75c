import JournalSite.Json.Skip
import JournalSite.Persona.Basic

/-!
# Personas in JSON

A persona is written as an object with its four texts in a fixed order. It is read
from an object that has each of the four once, in any order and among any other
members, or from an array of just the four texts in that order. Other members are
skipped and may come repeatedly.

Reading goes from left to right and stops at the first fault, so a member of the
wrong type is reported before bad syntax further on, a repeated member as soon as
its name is read, and a missing one at the closing brace.
-/

namespace JournalSite

open Json

/-- The members of a persona, in the order they are written in. -/
inductive PersonaField where
  /-- The key. -/
  | key
  /-- The label. -/
  | label
  /-- The description. -/
  | description
  /-- The picture character. -/
  | emoji
  deriving DecidableEq, Repr

namespace PersonaField

/-- All members, in order. -/
def all : List PersonaField := [key, label, description, emoji]

/-- The name of a member. -/
def name : PersonaField → String
  | key => "key"
  | label => "label"
  | description => "description"
  | emoji => "emoji"

/-- The member with this name, if a persona has one. -/
def ofName? (s : String) : Option PersonaField :=
  all.find? (·.name == s)

end PersonaField

/-- The text of a member of a persona. -/
def Persona.get (p : Persona) : PersonaField → String
  | .key => p.key
  | .label => p.label
  | .description => p.description
  | .emoji => p.emoji

/-- What is known of a persona while it is read. -/
abbrev PersonaParts := PersonaField → Option String

namespace PersonaParts

/-- Nothing is known yet. -/
def none : PersonaParts := fun _ => Option.none

/-- One member more is known. -/
def set (parts : PersonaParts) (field : PersonaField) (value : String) : PersonaParts :=
  fun f => if f = field then some value else parts f

/-- The text of a member, or the fault that it is missing. -/
def require (parts : PersonaParts) (field : PersonaField) : Except Fault String :=
  match parts field with
  | some value => .ok value
  | Option.none => .error (.wrongShape (.missingField field.name))

/-- The persona, or the fault that a member is missing: the first in order. -/
def persona (parts : PersonaParts) : Except Fault Persona := do
  let key ← parts.require .key
  let label ← parts.require .label
  let description ← parts.require .description
  let emoji ← parts.require .emoji
  .ok ⟨key, label, description, emoji⟩

end PersonaParts

namespace PersonaReading

/-- What a member's value is expected to be. -/
def expectedText : String := "a string"

/-- What the whole text is expected to be. -/
def expectedPersona : String := "struct PersonaOption"

/-- What an array is expected to be. -/
def expectedArray : String := "struct PersonaOption with 4 elements"

/-- The fault of a value that stands where another was expected. The value is read as far as its
type needs, and may turn out to be at fault itself. -/
def wrongValue (expected : String) (cs : List Char) : Fault :=
  let wrongType (found : Found) : Fault := .wrongShape (.wrongType found expected)
  let afterWord (found : Found) (word cs : List Char) : Fault :=
    match readWord word cs with
    | .error fault => fault
    | .ok _ => wrongType found
  match cs with
  | [] => .endsEarly
  | 'n' :: rest => afterWord .null ['u', 'l', 'l'] rest
  | 't' :: rest => afterWord (.boolean true) ['r', 'u', 'e'] rest
  | 'f' :: rest => afterWord (.boolean false) ['a', 'l', 's', 'e'] rest
  | '"' :: rest =>
    match readString rest with
    | .error fault => fault
    | .ok (value, _) => wrongType (.text value)
  | '[' :: _ => wrongType .sequence
  | '\x7b' :: _ => wrongType .map
  | c :: rest =>
    if c = '-' ∨ c.isDigit then
      match readNumber (c :: rest) with
      | .error fault => fault
      | .ok (t, _) =>
        match t.found? with
        | some found => wrongType found
        | none => .badSyntax
    else .badSyntax

/-- Reads a text, from before its opening quote mark. -/
def readText (cs : List Char) : Reading String :=
  match skipBlanks cs with
  | [] => .error .endsEarly
  | '"' :: rest => readString rest
  | c :: rest => .error (wrongValue expectedText (c :: rest))

/-! ### From an array -/

/-- Goes to the next element of an array, if there is one. -/
def nextElement (first : Bool) (cs : List Char) : Except Fault (Option (List Char)) :=
  match skipBlanks cs with
  | [] => .error .endsEarly
  | ']' :: _ => .ok none
  | c :: rest =>
    if first then .ok (some (c :: rest))
    else if c = ',' then
      match skipBlanks rest with
      | [] => .error .endsEarly
      | ']' :: _ => .error .badSyntax
      | next => .ok (some next)
    else .error .badSyntax

/-- Reads the elements of an array as the members still to come. `count` elements were read. -/
def readElements (count : Nat) (parts : PersonaParts) :
    List PersonaField → List Char → Reading PersonaParts
  | [], cs => .ok (parts, cs)
  | field :: fields, cs =>
    match nextElement (count == 0) cs with
    | .error fault => .error fault
    | .ok none => .error (.wrongShape (.wrongLength count expectedArray))
    | .ok (some cs) =>
      match readText cs with
      | .error fault => .error fault
      | .ok (value, rest) => readElements (count + 1) (parts.set field value) fields rest

/-- Reads an array after its bracket. It has to end after the last member. -/
def readArray (cs : List Char) : Except Fault (Persona × List Char) := do
  let (parts, rest) ← readElements 0 .none PersonaField.all cs
  let persona ← parts.persona
  match skipBlanks rest with
  | [] => .error .endsEarly
  | ']' :: rest => .ok (persona, rest)
  | _ => .error .badSyntax

/-! ### From an object -/

/-- Goes behind the colon after the name of a member. -/
def readColon (cs : List Char) : Except Fault (List Char) :=
  match skipBlanks cs with
  | [] => .error .endsEarly
  | ':' :: rest => .ok rest
  | _ => .error .badSyntax

/-- Goes behind the quote mark that opens the name of the next member, if there is one, and else
behind the brace that ends the object. -/
def nextName (first : Bool) (cs : List Char) : Reading Bool :=
  match skipBlanks cs with
  | [] => .error .endsEarly
  | '\x7d' :: rest => .ok (false, rest)
  | c :: rest =>
    if first then
      if c = '"' then .ok (true, rest) else .error .badSyntax
    else if c = ',' then
      match skipBlanks rest with
      | [] => .error .endsEarly
      | '"' :: rest => .ok (true, rest)
      | _ => .error .badSyntax
    else .error .badSyntax

/-- Reads a member after the quote mark that opens its name. -/
def readMember (parts : PersonaParts) (cs : List Char) : Except Fault (PersonaParts × List Char) := do
  let (name, rest) ← readString cs
  match PersonaField.ofName? name with
  | some field =>
    if (parts field).isSome then .error (.wrongShape (.duplicateField field.name))
    else do
      let rest ← readColon rest
      let (value, rest) ← readText rest
      .ok (parts.set field value, rest)
  | none => do
    let rest ← readColon rest
    let rest ← skipValue rest
    .ok (parts, rest)

theorem length_readText_lt {cs rest : List Char} {value : String}
    (h : readText cs = .ok (value, rest)) : rest.length < cs.length := by
  have hb := length_skipBlanks_le cs
  unfold readText at h
  split at h
  · cases h
  · next hr =>
    rw [hr, List.length_cons] at hb
    exact Nat.lt_of_lt_of_le (Nat.lt_succ_of_lt (length_readString_lt h)) hb
  · cases h

theorem length_readColon_le {cs rest : List Char} (h : readColon cs = .ok rest) :
    rest.length ≤ cs.length := by
  have hb := length_skipBlanks_le cs
  unfold readColon at h
  split at h
  · cases h
  · next hr =>
    cases h
    rw [hr, List.length_cons] at hb
    exact Nat.le_of_succ_le hb
  · cases h

theorem length_nextName_lt {first more : Bool} {cs rest : List Char}
    (h : nextName first cs = .ok (more, rest)) : rest.length < cs.length := by
  have hb := length_skipBlanks_le cs
  unfold nextName at h
  split at h
  · cases h
  · next hr =>
    cases h
    rw [hr, List.length_cons] at hb
    exact hb
  · next c r _ hr =>
    rw [hr, List.length_cons] at hb
    split at h
    · split at h
      · cases h
        exact hb
      · cases h
    · split at h
      · have hc := length_skipBlanks_le r
        split at h
        · cases h
        · next hs =>
          cases h
          rw [hs, List.length_cons] at hc
          omega
        · cases h
      · cases h

theorem length_readMember_lt {parts after : PersonaParts} {cs rest : List Char}
    (h : readMember parts cs = .ok (after, rest)) : rest.length < cs.length := by
  unfold readMember at h
  cases hn : readString cs with
  | error e => rw [hn] at h; cases h
  | ok p =>
    have h1 := length_readString_lt hn
    rw [hn] at h
    simp only [bind, Except.bind] at h
    split at h
    · split at h
      · cases h
      · cases hc : readColon p.2 with
        | error e => rw [hc] at h; cases h
        | ok r =>
          have h2 := length_readColon_le hc
          rw [hc] at h
          simp only at h
          cases ht : readText r with
          | error e => rw [ht] at h; cases h
          | ok q =>
            have h3 := length_readText_lt ht
            rw [ht] at h
            simp only [Except.ok.injEq, Prod.mk.injEq] at h
            obtain ⟨-, rfl⟩ := h
            omega
    · cases hc : readColon p.2 with
      | error e => rw [hc] at h; cases h
      | ok r =>
        have h2 := length_readColon_le hc
        rw [hc] at h
        simp only at h
        cases hs : skipValue r with
        | error e => rw [hs] at h; cases h
        | ok q =>
          have h3 := length_skipValue_lt hs
          rw [hs] at h
          simp only [Except.ok.injEq, Prod.mk.injEq] at h
          obtain ⟨-, rfl⟩ := h
          omega

/-- Reads the members of an object that are still to come, and the brace that ends it. -/
def readMembers (first : Bool) (parts : PersonaParts) (cs : List Char) : Reading Persona :=
  match _hn : nextName first cs with
  | .error fault => .error fault
  | .ok (false, rest) => parts.persona.map fun persona => (persona, rest)
  | .ok (true, rest) =>
    match _hm : readMember parts rest with
    | .error fault => .error fault
    | .ok (parts, rest) => readMembers false parts rest
termination_by cs.length
decreasing_by exact Nat.lt_trans (length_readMember_lt _hm) (length_nextName_lt _hn)

/-! ### The whole text -/

/-- Reads a persona and gives the text after it. -/
def readPersona (cs : List Char) : Reading Persona :=
  match skipBlanks cs with
  | [] => .error .endsEarly
  | '[' :: rest => readArray rest
  | '\x7b' :: rest => readMembers true .none rest
  | c :: rest => .error (wrongValue expectedPersona (c :: rest))

end PersonaReading

/-- The persona in a JSON text. After it there may be blanks only. -/
def Persona.ofJson? (text : String) : Except Fault Persona :=
  match PersonaReading.readPersona text.toList with
  | .error fault => .error fault
  | .ok (persona, rest) => if (skipBlanks rest).isEmpty then .ok persona else .error .badSyntax

/-- A member of a persona in writing: name, colon and text. -/
def Persona.writtenMember (p : Persona) (field : PersonaField) : List Char :=
  writtenString field.name ++ ':' :: writtenString (p.get field)

/-- A persona in JSON, its members in order and without blanks. -/
def Persona.toJson (p : Persona) : String :=
  String.ofList ('\x7b' :: ((PersonaField.all.map p.writtenMember).intersperse [',']).flatten ++
    ['\x7d'])

end JournalSite
