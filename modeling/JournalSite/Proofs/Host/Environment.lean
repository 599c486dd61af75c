import JournalSite.Host.Environment
import Mathlib

/-!
# Any texts can be settings

A setting is kept as bytes, and asked for as a text. Whether what is asked for is what was
set depends on the bytes being read back to the characters they were made of: `utf8Pieces`
finds the characters one by one, and in the UTF-8 form of a text it finds those of the text
and no stray byte (`utf8Pieces_utf8Bytes`).

So a name can be set to any text, or not be set, whatever the other names are set to
(`Environment.exists_text?_eq`). What is said about all environments is said about all texts.
-/

namespace JournalSite

namespace Text

/-- The UTF-8 form of a character is found at the beginning of what it begins, since it is no longer
than the four bytes that are looked at. -/
theorem firstChar?_append (c : Char) (bytes : List UInt8) :
    firstChar? (String.utf8EncodeChar c ++ bytes) = some c := by
  have hlength : (String.utf8EncodeChar c).length ≤ 4 := by
    rw [String.length_utf8EncodeChar]
    exact Char.utf8Size_le_four c
  rw [firstChar?, List.take_append, List.take_of_length_le hlength, List.toByteArray_append]
  exact ByteArray.utf8DecodeChar?_utf8EncodeChar_append

theorem utf8Pieces_append (c : Char) (bytes : List UInt8) :
    utf8Pieces (String.utf8EncodeChar c ++ bytes) = .char c :: utf8Pieces bytes := by
  have hlength := String.length_utf8EncodeChar c
  have hfirst := firstChar?_append c bytes
  cases hcode : String.utf8EncodeChar c with
  | nil =>
    have hpos := Char.utf8Size_pos c
    rw [hcode, List.length_nil] at hlength
    omega
  | cons b bs =>
    rw [hcode] at hfirst hlength
    have hbs : bs.length = c.utf8Size - 1 := by
      rw [List.length_cons] at hlength
      omega
    rw [List.cons_append] at hfirst ⊢
    rw [utf8Pieces, hfirst]
    simp only [← hbs, List.drop_left]

/-- In the UTF-8 form of a text there are its characters, and no stray byte. -/
theorem utf8Pieces_utf8Bytes (cs : List Char) : utf8Pieces (utf8Bytes cs) = cs.map .char := by
  induction cs with
  | nil => rw [utf8Bytes_nil, utf8Pieces_nil, List.map_nil]
  | cons c cs ih => rw [utf8Bytes_cons, utf8Pieces_append, ih, List.map_cons]

theorem mapM_char?_map_char (cs : List Char) :
    (cs.map Utf8Piece.char).mapM Utf8Piece.char? = some cs := by
  induction cs with
  | nil => rfl
  | cons c cs ih => rw [List.map_cons, List.mapM_cons, ih]; rfl

/-- A text is read back from its UTF-8 form. -/
@[simp] theorem ofUtf8?_utf8 (s : String) : ofUtf8? (utf8 s) = some s := by
  rw [ofUtf8?, utf8, utf8Pieces_utf8Bytes, mapM_char?_map_char, Option.map_some,
    String.ofList_toList]

end Text

open Text

namespace Environment

@[simp] theorem text?_set_self (env : Environment) (name value : String) :
    (env.set name value).text? name = some value := by
  simp [text?, setting]

theorem text?_set_of_ne (env : Environment) {name other : String} (value : String)
    (h : other ≠ name) : (env.set name value).text? other = env.text? other := by
  rw [text?, text?, setting, setting, bytes?_set_of_ne env value h]

/-- The environment in which a name is not set, whatever it was set to before. -/
def unset (env : Environment) (name : String) : Environment :=
  ⟨env.entries.filter (·.1 ≠ name)⟩

@[simp] theorem bytes?_unset_self (env : Environment) (name : String) :
    (env.unset name).bytes? name = none := by
  rw [bytes?, unset, List.lookup_eq_none_iff]
  intro entry hentry
  have hne : entry.1 ≠ name := by simpa using (List.mem_filter.1 hentry).2
  simpa using hne.symm

theorem bytes?_unset_of_ne (env : Environment) {name other : String} (h : other ≠ name) :
    (env.unset name).bytes? other = env.bytes? other := by
  obtain ⟨entries⟩ := env
  simp only [bytes?, unset]
  induction entries with
  | nil => rfl
  | cons entry entries ih =>
    by_cases hname : entry.1 = name
    · have hother : (other == entry.1) = false := by simpa [hname] using h
      rw [List.filter_cons_of_neg (by simpa using hname), ih, List.lookup_cons, hother]
    · rw [List.filter_cons_of_pos (by simpa using hname), List.lookup_cons, List.lookup_cons, ih]

/-- **Any setting can be made**: a name is set to any text, or not set, and what other names are set
to stays as it was. -/
theorem exists_text?_eq (env : Environment) (name : String) (value : Option String) :
    ∃ env' : Environment, env'.text? name = value ∧
      ∀ other, other ≠ name → env'.text? other = env.text? other := by
  cases value with
  | none =>
    refine ⟨env.unset name, ?_, ?_⟩
    · rw [text?, setting, bytes?_unset_self]
    · intro other h
      rw [text?, text?, setting, setting, bytes?_unset_of_ne env h]
  | some value =>
    refine ⟨env.set name value, text?_set_self env name value, ?_⟩
    intro other h
    exact text?_set_of_ne env value h

end Environment

end JournalSite
