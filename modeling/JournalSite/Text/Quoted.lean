import JournalSite.Text.Hidden

/-!
# Quoted text

A value that an operator typed is shown in a message between double quotes, in a
form that keeps the message on one line and tells any two values apart: a quote
mark and a backslash follow a backslash, line feed, carriage return, tab and NUL
have a letter of their own, and every other hidden character is written by its
number in hexadecimal.
-/

namespace JournalSite.Text

/-- A character written by its number: `\u`, then lower-case hexadecimal digits in braces. -/
def numbered (c : Char) : List Char :=
  '\\' :: 'u' :: '\x7b' :: (Nat.toDigits 16 c.toNat ++ ['\x7d'])

/-- One character as it stands between double quotes. -/
def quotedChar (c : Char) : List Char :=
  if c = '"' then ['\\', '"']
  else if c = '\\' then ['\\', '\\']
  else if c = '\n' then ['\\', 'n']
  else if c = '\r' then ['\\', 'r']
  else if c = '\t' then ['\\', 't']
  else if c = '\x00' then ['\\', '0']
  else if isHidden c then numbered c
  else [c]

/-- The characters of a text as they stand between double quotes. -/
def quotedChars (cs : List Char) : List Char :=
  cs.flatMap quotedChar

/-- A text between double quotes. -/
def quoted (s : String) : String :=
  String.ofList ('"' :: (quotedChars s.toList ++ ['"']))

@[simp] theorem toList_quoted (s : String) :
    (quoted s).toList = '"' :: (quotedChars s.toList ++ ['"']) := by
  simp [quoted]

@[simp] theorem quotedChars_nil : quotedChars [] = [] := rfl

@[simp] theorem quotedChars_cons (c : Char) (cs : List Char) :
    quotedChars (c :: cs) = quotedChar c ++ quotedChars cs := by
  simp [quotedChars]

end JournalSite.Text
