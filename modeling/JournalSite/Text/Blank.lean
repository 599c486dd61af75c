/-!
# Sets of characters, and blanks

A set of characters is given by the code points it holds, as a list of closed
ranges. The tables of this library (blanks, characters that are shown by
number) are lists of this kind; membership is a walk along the list.

A character is *blank* when Unicode gives it the property `White_Space`. The
zero-width space, the byte order mark and the Mongolian vowel separator do not
have it. Trimming takes blanks off both ends of a text and leaves those inside.
-/

namespace JournalSite.Text

/-! ### Sets of characters -/

/-- A closed range of code points, both ends included. -/
structure Range where
  /-- The first code point of the range. -/
  first : Nat
  /-- The last code point of the range. -/
  last : Nat
  deriving DecidableEq, Repr

namespace Range

/-- Whether the code point of `c` lies between the two ends. -/
def holds (r : Range) (c : Char) : Bool :=
  decide (r.first ≤ c.toNat ∧ c.toNat ≤ r.last)

theorem holds_iff (r : Range) (c : Char) :
    r.holds c = true ↔ r.first ≤ c.toNat ∧ c.toNat ≤ r.last := by
  simp [holds]

end Range

/-- Whether one of the ranges holds `c`. -/
def inRanges (ranges : List Range) (c : Char) : Bool :=
  ranges.any (·.holds c)

theorem inRanges_iff (ranges : List Range) (c : Char) :
    inRanges ranges c = true ↔ ∃ r ∈ ranges, r.first ≤ c.toNat ∧ c.toNat ≤ r.last := by
  simp [inRanges, Range.holds_iff]

/-! ### Blanks -/

/-- The twenty-five characters with the property `White_Space`. -/
def blankRanges : List Range :=
  [⟨0x9, 0xD⟩, ⟨0x20, 0x20⟩, ⟨0x85, 0x85⟩, ⟨0xA0, 0xA0⟩, ⟨0x1680, 0x1680⟩,
   ⟨0x2000, 0x200A⟩, ⟨0x2028, 0x2029⟩, ⟨0x202F, 0x202F⟩, ⟨0x205F, 0x205F⟩, ⟨0x3000, 0x3000⟩]

/-- Whether a character is white space. -/
def isBlank (c : Char) : Bool :=
  inRanges blankRanges c

/-- The text without the blanks it begins with. -/
def trimStart (cs : List Char) : List Char :=
  cs.dropWhile isBlank

/-- The text without the blanks it ends with. -/
def trimEnd (cs : List Char) : List Char :=
  (cs.reverse.dropWhile isBlank).reverse

/-- The text without the blanks at either end. -/
def trim (cs : List Char) : List Char :=
  trimEnd (trimStart cs)

/-- `trim` on strings. -/
def trimmed (s : String) : String :=
  String.ofList (trim s.toList)

@[simp] theorem toList_trimmed (s : String) : (trimmed s).toList = trim s.toList := by
  simp [trimmed]

@[simp] theorem trim_nil : trim [] = [] := rfl

end JournalSite.Text
