import JournalSite.Proofs.Text.Hexadecimal
import JournalSite.Text.Quoted

/-!
# Quoted text is read back

`readQuoted?` undoes the quoting. It reads from behind the opening quote mark up to the first
quote mark that is not part of an escape, and replaces each escape by the character it stands
for. Whatever text was quoted, and whatever follows behind the closing quote mark, it finds that
text and stops just there (**`readQuoted?_quotedChars`**).

A quoted text stays on one line (**`oneLine_quotedChars`**): it has no control character, and
none of the two separators that part lines and paragraphs, whatever characters the text has.
-/

namespace JournalSite.Text

/-! ### Texts on one line -/

/-- The control characters. -/
def IsControl (c : Char) : Prop := c.toNat ≤ 0x1F ∨ (0x7F ≤ c.toNat ∧ c.toNat ≤ 0x9F)

instance (c : Char) : Decidable (IsControl c) :=
  inferInstanceAs (Decidable (_ ∨ _))

/-- A character that ends no line: no control character, no separator of lines and none of
paragraphs. -/
def StaysOnLine (c : Char) : Prop := ¬ IsControl c ∧ c ≠ '\u2028' ∧ c ≠ '\u2029'

instance (c : Char) : Decidable (StaysOnLine c) :=
  inferInstanceAs (Decidable (_ ∧ _))

/-- **A text on one line.** -/
def OneLine (cs : List Char) : Prop := ∀ c ∈ cs, StaysOnLine c

instance (cs : List Char) : Decidable (OneLine cs) :=
  decidable_of_iff (cs.all fun c => decide (StaysOnLine c)) (by simp [OneLine])

theorem oneLine_nil : OneLine [] := nofun

theorem oneLine_append {cs ds : List Char} : OneLine (cs ++ ds) ↔ OneLine cs ∧ OneLine ds :=
  List.forall_mem_append

theorem oneLine_cons {c : Char} {cs : List Char} :
    OneLine (c :: cs) ↔ StaysOnLine c ∧ OneLine cs :=
  List.forall_mem_cons

theorem staysOnLine_of_visible {c : Char} (h : 0x20 ≤ c.toNat ∧ c.toNat ≤ 0x7E) :
    StaysOnLine c := by
  refine ⟨?_, ?_, ?_⟩
  · unfold IsControl
    omega
  · rintro rfl
    exact absurd h.2 (by decide)
  · rintro rfl
    exact absurd h.2 (by decide)

/-- What would end the line is shown by its number. -/
theorem staysOnLine_of_not_isHidden {c : Char} (h : isHidden c = false) : StaysOnLine c := by
  have hout : ∀ r ∈ hiddenRanges, ¬ (r.first ≤ c.toNat ∧ c.toNat ≤ r.last) := by
    intro r hr hc
    have hhidden : isHidden c = true := (inRanges_iff _ c).2 ⟨r, hr, hc⟩
    rw [h] at hhidden
    cases hhidden
  have hlow := hout ⟨0x0, 0x1F⟩ (by decide)
  have hhigh := hout ⟨0x7F, 0xA0⟩ (by decide)
  have hseparator := hout ⟨0x2028, 0x202F⟩ (by decide)
  refine ⟨?_, ?_, ?_⟩
  · unfold IsControl
    simp only at hlow hhigh
    omega
  · rintro rfl
    exact hseparator (by decide)
  · rintro rfl
    exact hseparator (by decide)

/-! ### Undoing the escapes -/

/-- What a letter behind a backslash stands for. -/
def escapedLetter? : Char → Option Char
  | '"' => some '"'
  | '\\' => some '\\'
  | 'n' => some '\n'
  | 'r' => some '\r'
  | 't' => some '\t'
  | '0' => some '\x00'
  | _ => none

/-- **Undoing the escapes** behind an opening quote mark: the text that is quoted, and what stands
behind the first quote mark that is not part of an escape. -/
def readQuoted? : List Char → Option (List Char × List Char)
  | [] => none
  | '"' :: behind => some ([], behind)
  | '\\' :: 'u' :: '\x7b' :: cs =>
    match hexNumber? (cs.takeWhile (· ≠ '\x7d')) with
    | none => none
    | some n => (readQuoted? (cs.dropWhile (· ≠ '\x7d')).tail).map (Prod.map (Char.ofNat n :: ·) id)
  | ['\\'] => none
  | '\\' :: e :: cs =>
    match escapedLetter? e with
    | none => none
    | some c => (readQuoted? cs).map (Prod.map (c :: ·) id)
  | c :: cs => (readQuoted? cs).map (Prod.map (c :: ·) id)
termination_by cs => cs.length
decreasing_by
  · have hle := (List.dropWhile_suffix (l := cs) (· ≠ '\x7d')).length_le
    simp only [List.length_tail, List.length_cons]
    omega
  · simp
  · simp

/-- Each character is quoted in one of three forms: by a letter of its own, by its number, or as it
is, and then it is no quote mark, no backslash and not hidden. -/
theorem quotedChar_cases (c : Char) :
    (∃ e, escapedLetter? e = some c ∧ quotedChar c = ['\\', e]) ∨
      quotedChar c = numbered c ∨
      (c ≠ '"' ∧ c ≠ '\\' ∧ isHidden c = false ∧ quotedChar c = [c]) := by
  unfold quotedChar
  split_ifs with hquote hbackslash hn hr ht h0 hhidden
  · exact .inl ⟨'"', by rw [hquote]; rfl, rfl⟩
  · exact .inl ⟨'\\', by rw [hbackslash]; rfl, rfl⟩
  · exact .inl ⟨'n', by rw [hn]; rfl, rfl⟩
  · exact .inl ⟨'r', by rw [hr]; rfl, rfl⟩
  · exact .inl ⟨'t', by rw [ht]; rfl, rfl⟩
  · exact .inl ⟨'0', by rw [h0]; rfl, rfl⟩
  · exact .inr (.inl rfl)
  · exact .inr (.inr ⟨hquote, hbackslash, Bool.eq_false_iff.2 hhidden, rfl⟩)

/-! ### What is quoted is read back -/

theorem readQuoted?_letter {e c : Char} (he : escapedLetter? e = some c) (cs : List Char) :
    readQuoted? ('\\' :: e :: cs) = (readQuoted? cs).map (Prod.map (c :: ·) id) := by
  rw [readQuoted?, he]
  -- what is left is the escape by number, whose letter stands for nothing by itself
  rintro _ rfl
  cases he

theorem readQuoted?_numbered (c : Char) (cs : List Char) :
    readQuoted? (numbered c ++ cs) = (readQuoted? cs).map (Prod.map (c :: ·) id) := by
  have hbrace : '\x7d' ∉ Nat.toDigits 16 c.toNat := (hexNumeral_toDigits c.toNat).not_mem rfl
  have hnumbered : numbered c ++ cs =
      '\\' :: 'u' :: '\x7b' :: (Nat.toDigits 16 c.toNat ++ '\x7d' :: cs) := by
    simp [numbered]
  rw [hnumbered, readQuoted?, takeWhile_append_cons hbrace, dropWhile_append_cons hbrace,
    hexNumber?_toDigits]
  simp only [Char.ofNat_toNat, List.tail_cons]

theorem readQuoted?_plain {c : Char} (hquote : c ≠ '"') (hbackslash : c ≠ '\\')
    (cs : List Char) :
    readQuoted? (c :: cs) = (readQuoted? cs).map (Prod.map (c :: ·) id) := by
  rw [readQuoted?]
  · exact hquote
  · intro _ h
    exact absurd h hbackslash
  · intro h
    exact absurd h hbackslash
  · intro _ _ h
    exact absurd h hbackslash

theorem readQuoted?_quotedChar_append (c : Char) (cs : List Char) :
    readQuoted? (quotedChar c ++ cs) = (readQuoted? cs).map (Prod.map (c :: ·) id) := by
  rcases quotedChar_cases c with ⟨e, he, hc⟩ | hc | ⟨hquote, hbackslash, -, hc⟩
  · rw [hc]
    exact readQuoted?_letter he cs
  · rw [hc]
    exact readQuoted?_numbered c cs
  · rw [hc]
    exact readQuoted?_plain hquote hbackslash cs

/-- **A quoted text is read back**, up to its closing quote mark, whatever stands behind it. -/
theorem readQuoted?_quotedChars (cs behind : List Char) :
    readQuoted? (quotedChars cs ++ '"' :: behind) = some (cs, behind) := by
  induction cs with
  | nil => rw [quotedChars_nil, List.nil_append, readQuoted?]
  | cons c cs ih =>
    rw [quotedChars_cons, List.append_assoc, readQuoted?_quotedChar_append, ih]
    rfl

/-! ### What is quoted stays on one line -/

theorem oneLine_numbered (c : Char) : OneLine (numbered c) := by
  have hdigits : OneLine (Nat.toDigits 16 c.toNat) := by
    intro d hd
    obtain ⟨hfirst, hlast⟩ := (hexNumeral_toDigits c.toNat).bounds_of_mem d hd
    simp only [Char.reduceToNat] at hfirst hlast
    exact staysOnLine_of_visible (by omega)
  simp only [numbered, oneLine_cons, oneLine_append, hdigits, oneLine_nil]
  decide

theorem oneLine_quotedChar (c : Char) : OneLine (quotedChar c) := by
  rcases quotedChar_cases c with ⟨e, he, hc⟩ | hc | ⟨-, -, hvisible, hc⟩
  · have hletter : StaysOnLine e := by
      unfold escapedLetter? at he
      split at he <;> first | decide | cases he
    rw [hc]
    exact oneLine_cons.2 ⟨by decide, oneLine_cons.2 ⟨hletter, oneLine_nil⟩⟩
  · rw [hc]
    exact oneLine_numbered c
  · rw [hc]
    exact oneLine_cons.2 ⟨staysOnLine_of_not_isHidden hvisible, oneLine_nil⟩

/-- **A quoted text stays on one line.** -/
theorem oneLine_quotedChars (cs : List Char) : OneLine (quotedChars cs) :=
  List.forall_mem_flatMap.2 fun c _ => oneLine_quotedChar c

end JournalSite.Text
