import JournalSite.Text.Quoted

/-!
# Reading JSON: faults, blanks and words

JSON text is read from left to right, and reading stops at the first fault. The
faults are of three kinds: the text ends too early, it is not JSON, or it is JSON
of the wrong shape.
-/

namespace JournalSite.Json

/-- A value that stands in the wrong place, as far as a message tells of it. -/
inductive Found where
  /-- The word `null`. -/
  | null
  /-- A truth value. -/
  | boolean (value : Bool)
  /-- A number without fraction or exponent that fits a word of 64 bits. -/
  | integer (value : Int)
  /-- Any other number, in its written form. -/
  | floating (written : String)
  /-- A string. -/
  | text (value : String)
  /-- An array, whatever is in it. -/
  | sequence
  /-- An object, whatever is in it. -/
  | map
  deriving DecidableEq, Repr

/-- What a value of the wrong type is called in a message. -/
def Found.description : Found → String
  | null => "null"
  | boolean value => "boolean `" ++ (if value then "true" else "false") ++ "`"
  | integer value => "integer `" ++ toString value ++ "`"
  | floating written => "floating point `" ++ written ++ "`"
  | text value => "string " ++ Text.quoted value
  | sequence => "sequence"
  | map => "map"

/-- What is wrong with the shape of a JSON text. -/
inductive ShapeFault where
  /-- One type of value was expected and another found. -/
  | wrongType (found : Found) (expected : String)
  /-- A member is missing. -/
  | missingField (name : String)
  /-- A member is there a second time. -/
  | duplicateField (name : String)
  /-- An array is too short. -/
  | wrongLength (length : Nat) (expected : String)
  deriving DecidableEq, Repr

/-- A fault of shape in words. -/
def ShapeFault.message : ShapeFault → String
  | wrongType found expected => "invalid type: " ++ found.description ++ ", expected " ++ expected
  | missingField name => "missing field `" ++ name ++ "`"
  | duplicateField name => "duplicate field `" ++ name ++ "`"
  | wrongLength length expected =>
    "invalid length " ++ toString length ++ ", expected " ++ expected

/-- What is wrong with a text that was to be read as JSON. -/
inductive Fault where
  /-- The text ends before the value does. -/
  | endsEarly
  /-- The text is not JSON. -/
  | badSyntax
  /-- The text is JSON up to here, but of the wrong shape. -/
  | wrongShape (fault : ShapeFault)
  deriving DecidableEq, Repr

/-- The result of reading from the front of a text: what was read and the text after it. -/
abbrev Reading (α : Type) := Except Fault (α × List Char)

/-- The blanks between the tokens of JSON: space, tab, line feed and carriage return. -/
def isBlank (c : Char) : Bool :=
  c = ' ' || c = '\t' || c = '\n' || c = '\r'

/-- The text without the JSON blanks it begins with. -/
def skipBlanks (cs : List Char) : List Char :=
  cs.dropWhile isBlank

theorem length_skipBlanks_le (cs : List Char) : (skipBlanks cs).length ≤ cs.length :=
  (List.dropWhile_sublist _).length_le

/-- Reads the rest of a word that began with its first letter. -/
def readWord : List Char → List Char → Except Fault (List Char)
  | [], cs => .ok cs
  | _ :: _, [] => .error .endsEarly
  | w :: ws, c :: cs => if c = w then readWord ws cs else .error .badSyntax

theorem length_readWord_le {ws cs rest : List Char} (h : readWord ws cs = .ok rest) :
    rest.length ≤ cs.length := by
  induction ws generalizing cs with
  | nil =>
    cases h
    exact Nat.le_refl _
  | cons w ws ih =>
    match cs with
    | [] => cases h
    | c :: cs =>
      unfold readWord at h
      split at h
      · exact Nat.le_succ_of_le (ih h)
      · cases h

end JournalSite.Json
