/-!
# Markup

Pages are built as trees and become text in one place, `Markup.render`. A text in
the tree can hold any characters; rendering escapes those that would be read as
markup, so what a visitor or an operator wrote never turns into a tag. An empty
text is written as one space, which keeps a place for it in the page.

A list of children is followed by the marker `<!>`, and the marker alone stands
where an optional child is absent: the script that takes over the page in the
browser finds its place by them.
-/

namespace JournalSite

/-- An attribute of an element. -/
structure Attribute where
  /-- The name of the attribute. -/
  name : String
  /-- The value, not escaped. -/
  value : String
  deriving DecidableEq, Repr

/-- A piece of a page. -/
inductive Markup where
  /-- Nothing. -/
  | empty
  /-- Text, in any characters. -/
  | text (content : String)
  /-- The marker after a list of children or in place of an absent child. -/
  | marker
  /-- An element with what stands between its two tags. -/
  | element (tag : String) (attributes : List Attribute) (inner : Markup)
  /-- An element that is a single tag. -/
  | single (tag : String) (attributes : List Attribute)
  /-- Characters that are written as they are. -/
  | verbatim (content : String)
  /-- One piece after the other. -/
  | both (first second : Markup)
  deriving DecidableEq, Repr

namespace Markup

instance : Append Markup := ⟨both⟩

/-- Pieces one after the other. -/
def ofList (pieces : List Markup) : Markup :=
  pieces.foldr both empty

/-- A list of children: the pieces one after the other, then the marker. -/
def listed (pieces : List Markup) : Markup :=
  ofList pieces ++ marker

/-- A character of a text, escaped if markup would begin or end with it. -/
def escapedChar (c : Char) : List Char :=
  if c = '&' then "&amp;".toList
  else if c = '<' then "&lt;".toList
  else if c = '>' then "&gt;".toList
  else [c]

/-- A character of an attribute's value: as in a text, and the quote mark is escaped too. -/
def escapedAttributeChar (c : Char) : List Char :=
  if c = '"' then "&quot;".toList else escapedChar c

/-- The characters of a text as they are written: escaped, or one space if there are none. -/
def textChars (content : String) : List Char :=
  if content.toList.isEmpty then [' '] else content.toList.flatMap escapedChar

/-- An attribute as it is written: a space, the name and the quoted value. -/
def attributeChars (a : Attribute) : List Char :=
  ' ' :: (a.name.toList ++ '=' :: '"' :: (a.value.toList.flatMap escapedAttributeChar ++ ['"']))

/-- The tag that opens an element. -/
def openingTag (tag : String) (attributes : List Attribute) : List Char :=
  '<' :: (tag.toList ++ (attributes.flatMap attributeChars ++ ['>']))

/-- The tag that closes an element. -/
def closingTag (tag : String) : List Char :=
  '<' :: '/' :: (tag.toList ++ ['>'])

/-- The characters a piece of a page is written in. -/
def chars : Markup → List Char
  | empty => []
  | text content => textChars content
  | marker => "<!>".toList
  | element tag attributes inner =>
    openingTag tag attributes ++ (chars inner ++ closingTag tag)
  | single tag attributes => openingTag tag attributes
  | verbatim content => content.toList
  | both first second => chars first ++ chars second

/-- A piece of a page as a string. -/
def render (m : Markup) : String :=
  String.ofList m.chars

@[simp] theorem chars_append (m n : Markup) : (m ++ n).chars = m.chars ++ n.chars := rfl

@[simp] theorem chars_ofList (ms : List Markup) : (ofList ms).chars = ms.flatMap chars := by
  induction ms with
  | nil => rfl
  | cons m ms ih =>
    rw [List.flatMap_cons, ← ih]
    rfl

theorem render_append (m n : Markup) : (m ++ n).render = m.render ++ n.render := by
  rw [render, chars_append, String.ofList_append]
  rfl

theorem render_element (tag : String) (attributes : List Attribute) (inner : Markup) :
    (element tag attributes inner).render =
      String.ofList (openingTag tag attributes) ++ inner.render ++
        String.ofList (closingTag tag) := by
  rw [render, chars, String.ofList_append, String.ofList_append, String.append_assoc]
  rfl

end Markup

end JournalSite
