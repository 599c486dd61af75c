import JournalSite.Text.Digits

/-!
# Bytes and characters

What the surroundings hand over (settings, requests, files) comes as bytes, and
need not be text. `utf8Pieces` cuts bytes into the characters whose UTF-8 form
they hold and the stray bytes that belong to none; `ofUtf8?` gives the text when
there is no stray byte, and `withoutStrays` a text in any case, with the
replacement character where a stray byte was.

In a path any byte can be written as a percent sign and two hexadecimal digits. A
percent sign without two such digits behind it means itself. The decoded bytes
need not be text.
-/

namespace JournalSite.Text

/-! ### Characters as bytes -/

/-- What bytes hold at one place. -/
inductive Utf8Piece where
  /-- A character in its UTF-8 form. -/
  | char (c : Char)
  /-- A byte that begins no character. -/
  | stray (b : UInt8)
  deriving DecidableEq, Repr

/-- The UTF-8 form of a list of characters. -/
def utf8Bytes (cs : List Char) : List UInt8 :=
  cs.flatMap String.utf8EncodeChar

/-- How many bytes a text has in UTF-8. -/
def byteCount (cs : List Char) : Nat :=
  cs.foldr (fun c count => c.utf8Size + count) 0

/-- The UTF-8 form of a text. -/
def utf8 (s : String) : List UInt8 :=
  utf8Bytes s.toList

/-- The character whose UTF-8 form the bytes begin with, if there is one. -/
def firstChar? (bytes : List UInt8) : Option Char :=
  (bytes.take 4).toByteArray.utf8DecodeChar? 0

/-- The characters and the stray bytes, from left to right. -/
def utf8Pieces : List UInt8 → List Utf8Piece
  | [] => []
  | b :: bs =>
    match firstChar? (b :: bs) with
    | some c => .char c :: utf8Pieces (bs.drop (c.utf8Size - 1))
    | none => .stray b :: utf8Pieces bs
  termination_by bytes => bytes.length
  decreasing_by
    · simp only [List.length_drop, List.length_cons]
      omega
    · simp

/-- The character of a piece, none for a stray byte. -/
def Utf8Piece.char? : Utf8Piece → Option Char
  | .char c => some c
  | .stray _ => none

/-- The text that the bytes are the UTF-8 form of, if they are one. -/
def ofUtf8? (bytes : List UInt8) : Option String :=
  ((utf8Pieces bytes).mapM Utf8Piece.char?).map String.ofList

/-- The text of the bytes, with U+FFFD in place of every stray byte. -/
def withoutStrays (bytes : List UInt8) : String :=
  String.ofList ((utf8Pieces bytes).map fun piece => piece.char?.getD '\uFFFD')

@[simp] theorem utf8Pieces_nil : utf8Pieces [] = [] := by
  rw [utf8Pieces]

@[simp] theorem utf8Bytes_nil : utf8Bytes [] = [] := rfl

@[simp] theorem utf8Bytes_cons (c : Char) (cs : List Char) :
    utf8Bytes (c :: cs) = String.utf8EncodeChar c ++ utf8Bytes cs := by
  simp [utf8Bytes]

/-! ### Percent codes -/

/-- The bytes of a text with its percent codes resolved. -/
def percentDecoded : List Char → List UInt8
  | [] => []
  | '%' :: a :: b :: rest =>
    match hexValue? a, hexValue? b with
    | some high, some low => UInt8.ofNat (high * 16 + low) :: percentDecoded rest
    | _, _ => String.utf8EncodeChar '%' ++ percentDecoded (a :: b :: rest)
  | c :: rest => String.utf8EncodeChar c ++ percentDecoded rest

end JournalSite.Text
