import JournalSite.Json.StringToken
import JournalSite.Proofs.Text.Hexadecimal

/-!
# The grammar of JSON strings

The blanks and strings of JSON, said without a reader. A string has two readings.
By `StringSyntax` it is well formed: its characters are not control characters, and
each backslash begins an escape. By `StringBody` it denotes a text: its surrogates
stand in pairs as well. The functions that read and skip strings accept just these
(`readString_eq_ok_iff`, `skipString_eq_ok_iff`); no side condition on what follows
is needed, since a string says itself where it ends.

What is written by `writtenString` denotes the text it was written from
(**`isLiteral_writtenString`**).
-/

namespace JournalSite.Json

/-! ### Blanks -/

/-- A text of JSON blanks only. The empty text is one. -/
def Blanks (w : List Char) : Prop := ∀ c ∈ w, isBlank c = true

theorem blanks_nil : Blanks [] := fun _ h => absurd h List.not_mem_nil

theorem skipBlanks_append {w : List Char} (hw : Blanks w) (cs : List Char) :
    skipBlanks (w ++ cs) = skipBlanks cs :=
  List.dropWhile_append_of_pos hw

theorem skipBlanks_cons {c : Char} (hc : isBlank c = false) (cs : List Char) :
    skipBlanks (c :: cs) = c :: cs :=
  List.dropWhile_cons_of_neg (by simp [hc])

/-- What is skipped is blank. -/
theorem exists_blanks_append_skipBlanks (cs : List Char) :
    ∃ w, Blanks w ∧ cs = w ++ skipBlanks cs :=
  ⟨cs.takeWhile isBlank, List.all_eq_true.1 List.all_takeWhile,
    List.takeWhile_append_dropWhile.symm⟩

theorem skipBlanks_eq_nil_iff {cs : List Char} : skipBlanks cs = [] ↔ Blanks cs :=
  List.dropWhile_eq_nil_iff

theorem skipBlanks_eq_cons_iff {cs rest : List Char} {c : Char} :
    skipBlanks cs = c :: rest ↔ isBlank c = false ∧ ∃ w, Blanks w ∧ cs = w ++ c :: rest := by
  constructor
  · intro h
    obtain ⟨w, hw, hcs⟩ := exists_blanks_append_skipBlanks cs
    refine ⟨?_, w, hw, by rw [hcs, h]⟩
    have hhead := List.head?_dropWhile_not isBlank cs
    rw [skipBlanks] at h
    rw [h] at hhead
    simpa using hhead
  · rintro ⟨hc, w, hw, rfl⟩
    rw [skipBlanks_append hw, skipBlanks_cons hc]

/-! ### Strings that denote a text -/

/-- Four hexadecimal digits and the number they denote. -/
inductive IsUnit : List Char → Nat → Prop where
  /-- Each digit counts sixteen times the next one. -/
  | mk {a b c d : Char} {i j k l : Nat} : Text.hexValue? a = some i → Text.hexValue? b = some j →
      Text.hexValue? c = some k → Text.hexValue? d = some l →
      IsUnit [a, b, c, d] (((i * 16 + j) * 16 + k) * 16 + l)

/-- The escapes of one letter: the letter and the character it stands for. -/
def shortEscapes : List (Char × Char) :=
  [('"', '"'), ('\\', '\\'), ('/', '/'), ('b', '\x08'), ('f', '\x0c'), ('n', '\n'), ('r', '\r'),
    ('t', '\t')]

/-- A piece of a string and the character it stands for. -/
inductive StringItem : List Char → Char → Prop where
  /-- A character as it is. -/
  | plain {c : Char} : 0x20 ≤ c.toNat → c ≠ '"' → c ≠ '\\' → StringItem [c] c
  /-- An escape of one letter. -/
  | short {e c : Char} : (e, c) ∈ shortEscapes → StringItem ['\\', e] c
  /-- An escape by number, which is no surrogate. -/
  | unit {ds : List Char} {n : Nat} : IsUnit ds n → ¬ (0xD800 ≤ n ∧ n ≤ 0xDFFF) →
      StringItem ('\\' :: 'u' :: ds) (Char.ofNat n)
  /-- Two escapes by number, a leading surrogate and a trailing one. -/
  | pair {ds ds' : List Char} {n n' : Nat} : IsUnit ds n → 0xD800 ≤ n ∧ n ≤ 0xDBFF →
      IsUnit ds' n' → 0xDC00 ≤ n' ∧ n' ≤ 0xDFFF →
      StringItem ('\\' :: 'u' :: (ds ++ '\\' :: 'u' :: ds'))
        (Char.ofNat (0x10000 + (n - 0xD800) * 0x400 + (n' - 0xDC00)))

/-- What stands between the quote marks of a string, and the text it denotes. -/
inductive StringBody : List Char → List Char → Prop where
  /-- The empty string. -/
  | nil : StringBody [] []
  /-- A piece and the rest. -/
  | cons {item body value : List Char} {c : Char} : StringItem item c → StringBody body value →
      StringBody (item ++ body) (c :: value)

/-- A string with its quote marks, and the text it denotes. -/
def IsLiteral (t : List Char) (value : String) : Prop :=
  ∃ body, StringBody body value.toList ∧ t = '"' :: (body ++ ['"'])

/-! ### Strings that are well formed -/

/-- A piece of a string that is well formed, whatever it stands for. -/
inductive StringPart : List Char → Prop where
  /-- A character as it is. -/
  | plain {c : Char} : 0x20 ≤ c.toNat → c ≠ '"' → c ≠ '\\' → StringPart [c]
  /-- An escape of one letter. -/
  | short {e c : Char} : (e, c) ∈ shortEscapes → StringPart ['\\', e]
  /-- An escape by number, which may be a lone surrogate. -/
  | unit {ds : List Char} {n : Nat} : IsUnit ds n → StringPart ('\\' :: 'u' :: ds)

/-- What stands between the quote marks of a string that is well formed. -/
inductive StringSyntax : List Char → Prop where
  /-- The empty string. -/
  | nil : StringSyntax []
  /-- A piece and the rest. -/
  | cons {part body : List Char} : StringPart part → StringSyntax body → StringSyntax (part ++ body)

/-! ### Reading a piece -/

theorem shortEscape?_eq_some_iff {e c : Char} :
    shortEscape? e = some c ↔ (e, c) ∈ shortEscapes := by
  simp only [shortEscapes, List.mem_cons, Prod.mk.injEq, List.not_mem_nil, or_false]
  constructor
  · intro h
    unfold shortEscape? at h
    split at h <;> simp_all [eq_comm]
  · rintro (h | h | h | h | h | h | h | h) <;>
    · obtain ⟨rfl, rfl⟩ := h
      rfl

/-- A result that is passed through a function comes from one before it. -/
theorem map_eq_ok_iff {ε α β : Type} {x : Except ε α} {f : α → β} {b : β} :
    x.map f = .ok b ↔ ∃ a, x = .ok a ∧ f a = b := by
  cases x with
  | error e => simp [Except.map]
  | ok a => simp [Except.map]

theorem readUnit_eq_ok_iff {cs rest : List Char} {n : Nat} :
    readUnit cs = .ok (n, rest) ↔ ∃ ds, IsUnit ds n ∧ cs = ds ++ rest := by
  constructor
  · intro h
    unfold readUnit at h
    split at h
    · cases h
    split at h
    · split at h
      · rename_i ha hb hc hd
        cases h
        exact ⟨_, .mk ha hb hc hd, rfl⟩
      · cases h
    · cases h
  · rintro ⟨ds, hds, rfl⟩
    cases hds with
    | @mk a b c d i j k l ha hb hc hd =>
      have hbytes : ¬ Text.byteCount [a, b, c, d] < 4 := by
        have := a.utf8Size_pos
        have := b.utf8Size_pos
        have := c.utf8Size_pos
        have := d.utf8Size_pos
        simp only [Text.byteCount, List.foldr]
        omega
      simp only [List.cons_append, List.nil_append, readUnit, List.take_succ_cons, List.take_zero,
        if_neg hbytes, ha, hb, hc, hd]

theorem isLeading_iff (n : Nat) : isLeading n = true ↔ 0xD800 ≤ n ∧ n ≤ 0xDBFF := by
  simp [isLeading]

theorem isTrailing_iff (n : Nat) : isTrailing n = true ↔ 0xDC00 ≤ n ∧ n ≤ 0xDFFF := by
  simp [isTrailing]

/-- An escape by number is a piece of its own, or the first half of a pair. -/
theorem exists_stringItem_of_readNumberedChar {cs rest : List Char} {c : Char}
    (h : readNumberedChar cs = .ok (c, rest)) :
    ∃ escape, StringItem ('\\' :: 'u' :: escape) c ∧ cs = escape ++ rest := by
  obtain ⟨⟨n, mid⟩, hunit, hchar⟩ := Text.bind_eq_ok_iff.1 h
  obtain ⟨ds, hds, rfl⟩ := readUnit_eq_ok_iff.1 hunit
  simp only at hchar
  split at hchar
  · cases hchar
  rename_i htrailing
  rw [isTrailing_iff] at htrailing
  split at hchar
  · rename_i hleading
    rw [isLeading_iff] at hleading
    split at hchar
    · cases hchar
    · cases hchar
    · obtain ⟨⟨n', last⟩, hunit', hpair⟩ := Text.bind_eq_ok_iff.1 hchar
      obtain ⟨ds', hds', rfl⟩ := readUnit_eq_ok_iff.1 hunit'
      simp only at hpair
      split at hpair
      · rename_i htrailing'
        rw [isTrailing_iff] at htrailing'
        simp only [Except.ok.injEq, Prod.mk.injEq] at hpair
        obtain ⟨rfl, rfl⟩ := hpair
        refine ⟨_, .pair hds hleading hds' htrailing', ?_⟩
        rw [List.append_assoc, List.cons_append, List.cons_append]
      · cases hpair
    · cases hchar
  · rename_i hleading
    rw [isLeading_iff] at hleading
    cases hchar
    exact ⟨ds, .unit hds (by omega), rfl⟩

theorem readNumberedChar_unit {ds : List Char} {n : Nat} (hds : IsUnit ds n)
    (hn : ¬ (0xD800 ≤ n ∧ n ≤ 0xDFFF)) (rest : List Char) :
    readNumberedChar (ds ++ rest) = .ok (Char.ofNat n, rest) := by
  have hunit : readUnit (ds ++ rest) = .ok (n, rest) := readUnit_eq_ok_iff.2 ⟨ds, hds, rfl⟩
  have hleading : ¬ isLeading n = true := by rw [isLeading_iff]; omega
  have htrailing : ¬ isTrailing n = true := by rw [isTrailing_iff]; omega
  rw [readNumberedChar, hunit]
  simp only [bind, Except.bind, if_neg hleading, if_neg htrailing]

theorem readNumberedChar_pair {ds ds' : List Char} {n n' : Nat} (hds : IsUnit ds n)
    (hn : 0xD800 ≤ n ∧ n ≤ 0xDBFF) (hds' : IsUnit ds' n') (hn' : 0xDC00 ≤ n' ∧ n' ≤ 0xDFFF)
    (rest : List Char) :
    readNumberedChar (ds ++ '\\' :: 'u' :: (ds' ++ rest)) =
      .ok (Char.ofNat (0x10000 + (n - 0xD800) * 0x400 + (n' - 0xDC00)), rest) := by
  have hunit : readUnit (ds ++ '\\' :: 'u' :: (ds' ++ rest)) =
      .ok (n, '\\' :: 'u' :: (ds' ++ rest)) := readUnit_eq_ok_iff.2 ⟨ds, hds, rfl⟩
  have hunit' : readUnit (ds' ++ rest) = .ok (n', rest) := readUnit_eq_ok_iff.2 ⟨ds', hds', rfl⟩
  have hleading : isLeading n = true := (isLeading_iff n).2 hn
  have htrailing : ¬ isTrailing n = true := by rw [isTrailing_iff]; omega
  have htrailing' : isTrailing n' = true := (isTrailing_iff n').2 hn'
  rw [readNumberedChar, hunit]
  simp only [bind, Except.bind, if_neg htrailing, if_pos hleading, hunit', if_pos htrailing',
    pairChar]

theorem readStringItem_plain {c : Char} (hlow : 0x20 ≤ c.toNat) (hquote : c ≠ '"')
    (hback : c ≠ '\\') (rest : List Char) :
    readStringItem (c :: rest) = .ok (some c, rest) := by
  unfold readStringItem
  split
  all_goals simp_all

theorem readStringItem_eq_none_iff {cs rest : List Char} :
    readStringItem cs = .ok (none, rest) ↔ cs = '"' :: rest := by
  constructor
  · intro h
    unfold readStringItem at h
    split at h
    · cases h
    · cases h
      rfl
    · cases h
    · obtain ⟨_, -, h⟩ := map_eq_ok_iff.1 h
      cases h
    · split at h
      · cases h
      · cases h
    · split at h
      · cases h
      · cases h
  · rintro rfl
    rfl

theorem readStringItem_eq_some_iff {cs rest : List Char} {c : Char} :
    readStringItem cs = .ok (some c, rest) ↔ ∃ item, StringItem item c ∧ cs = item ++ rest := by
  constructor
  · intro h
    unfold readStringItem at h
    split at h
    · cases h
    · cases h
    · cases h
    · obtain ⟨⟨c', r⟩, hread, h⟩ := map_eq_ok_iff.1 h
      cases h
      obtain ⟨escape, hitem, rfl⟩ := exists_stringItem_of_readNumberedChar hread
      exact ⟨_, hitem, rfl⟩
    · split at h
      · rename_i hshort
        cases h
        exact ⟨_, .short (shortEscape?_eq_some_iff.1 hshort), rfl⟩
      · cases h
    · rename_i c' r hquote hend hunit hback
      split at h
      · cases h
      · rename_i hlow
        cases h
        refine ⟨[c], .plain (Nat.not_lt.1 hlow) hquote fun hc => ?_, rfl⟩
        cases rest with
        | nil => exact hend hc rfl
        | cons e rest => exact hback e rest hc rfl
  · rintro ⟨item, hitem, rfl⟩
    cases hitem with
    | plain hlow hquote hback => exact readStringItem_plain hlow hquote hback rest
    | short hmem =>
      simp only [shortEscapes, List.mem_cons, Prod.mk.injEq, List.not_mem_nil, or_false] at hmem
      rcases hmem with h | h | h | h | h | h | h | h <;>
      · obtain ⟨rfl, rfl⟩ := h
        rfl
    | unit hds hn =>
      have hread := readNumberedChar_unit hds hn rest
      rw [List.cons_append, List.cons_append, readStringItem, hread, Except.map]
    | pair hds hn hds' hn' =>
      have hread := readNumberedChar_pair hds hn hds' hn' rest
      rw [List.cons_append, List.cons_append, List.append_assoc, List.cons_append, List.cons_append,
        readStringItem, hread, Except.map]

/-! ### Reading a string -/

theorem readChars_quote (rest : List Char) : readChars ('"' :: rest) = .ok ([], rest) := by
  rw [readChars]
  rfl

theorem readChars_item {cs mid : List Char} {c : Char}
    (h : readStringItem cs = .ok (some c, mid)) :
    readChars cs = (readChars mid).map fun (value, rest) => (c :: value, rest) := by
  rw [readChars]
  split
  case h_3 hitem =>
    cases h.symm.trans hitem
    rfl
  case h_1 hitem => cases h.symm.trans hitem
  case h_2 hitem => cases h.symm.trans hitem

theorem readChars_eq_ok_iff {cs rest value : List Char} :
    readChars cs = .ok (value, rest) ↔
      ∃ body, StringBody body value ∧ cs = body ++ '"' :: rest := by
  constructor
  · intro h
    fun_induction readChars cs generalizing value with
    | case1 => cases h
    | case2 cs r hitem =>
      cases h
      exact ⟨[], .nil, readStringItem_eq_none_iff.1 hitem⟩
    | case3 cs c r hread ih =>
      obtain ⟨⟨value', r'⟩, hrest, h⟩ := map_eq_ok_iff.1 h
      cases h
      obtain ⟨item, hitem, rfl⟩ := readStringItem_eq_some_iff.1 hread
      obtain ⟨body, hbody, rfl⟩ := ih hrest
      exact ⟨item ++ body, .cons hitem hbody, by rw [List.append_assoc]⟩
  · rintro ⟨body, hbody, rfl⟩
    induction hbody with
    | nil => rw [List.nil_append, readChars_quote]
    | @cons item body value c hitem hbody ih =>
      have hread : readStringItem (item ++ (body ++ '"' :: rest)) =
          .ok (some c, body ++ '"' :: rest) := readStringItem_eq_some_iff.2 ⟨item, hitem, rfl⟩
      rw [List.append_assoc, readChars_item hread, ih]
      rfl

/-- **Reading a string** gives the text that it denotes, and what stands after its closing quote
mark. -/
theorem readString_eq_ok_iff {cs rest : List Char} {value : String} :
    readString cs = .ok (value, rest) ↔
      ∃ body, StringBody body value.toList ∧ cs = body ++ '"' :: rest := by
  rw [readString, map_eq_ok_iff, ← readChars_eq_ok_iff]
  constructor
  · rintro ⟨⟨chars, r⟩, hread, h⟩
    cases h
    rw [String.toList_ofList, hread]
  · intro h
    exact ⟨_, h, by simp only [String.ofList_toList]⟩

/-! ### Skipping a string -/

theorem skipStringItem_eq_false_iff {cs rest : List Char} :
    skipStringItem cs = .ok (false, rest) ↔ cs = '"' :: rest := by
  constructor
  · intro h
    unfold skipStringItem at h
    split at h
    · cases h
    · cases h
      rfl
    · cases h
    · obtain ⟨_, -, h⟩ := map_eq_ok_iff.1 h
      cases h
    · split at h
      · cases h
      · cases h
    · split at h
      · cases h
      · cases h
  · rintro rfl
    rfl

theorem skipStringItem_plain {c : Char} (hlow : 0x20 ≤ c.toNat) (hquote : c ≠ '"')
    (hback : c ≠ '\\') (rest : List Char) :
    skipStringItem (c :: rest) = .ok (true, rest) := by
  unfold skipStringItem
  split
  all_goals simp_all

theorem skipStringItem_eq_true_iff {cs rest : List Char} :
    skipStringItem cs = .ok (true, rest) ↔ ∃ part, StringPart part ∧ cs = part ++ rest := by
  constructor
  · intro h
    unfold skipStringItem at h
    split at h
    · cases h
    · cases h
    · cases h
    · obtain ⟨⟨n, r⟩, hread, h⟩ := map_eq_ok_iff.1 h
      cases h
      obtain ⟨ds, hds, rfl⟩ := readUnit_eq_ok_iff.1 hread
      exact ⟨_, .unit hds, rfl⟩
    · split at h
      · rename_i hshort
        cases h
        exact ⟨_, .short (shortEscape?_eq_some_iff.1 hshort), rfl⟩
      · cases h
    · rename_i c r hquote hend hunit hback
      split at h
      · cases h
      · rename_i hlow
        cases h
        refine ⟨[c], .plain (Nat.not_lt.1 hlow) hquote fun hc => ?_, rfl⟩
        cases rest with
        | nil => exact hend hc rfl
        | cons e rest => exact hback e rest hc rfl
  · rintro ⟨part, hpart, rfl⟩
    cases hpart with
    | plain hlow hquote hback => exact skipStringItem_plain hlow hquote hback rest
    | short hmem =>
      simp only [shortEscapes, List.mem_cons, Prod.mk.injEq, List.not_mem_nil, or_false] at hmem
      rcases hmem with h | h | h | h | h | h | h | h <;>
      · obtain ⟨rfl, rfl⟩ := h
        rfl
    | unit hds =>
      have hread := readUnit_eq_ok_iff.2 ⟨_, hds, (rfl : _ ++ rest = _)⟩
      rw [List.cons_append, List.cons_append, skipStringItem, hread, Except.map]

theorem skipString_quote (rest : List Char) : skipString ('"' :: rest) = .ok rest := by
  rw [skipString]
  rfl

theorem skipString_part {cs mid : List Char} (h : skipStringItem cs = .ok (true, mid)) :
    skipString cs = skipString mid := by
  conv_lhs => rw [skipString]
  split
  case h_3 hitem =>
    cases h.symm.trans hitem
    rfl
  case h_1 hitem => cases h.symm.trans hitem
  case h_2 hitem => cases h.symm.trans hitem

/-- **Skipping a string** goes behind the closing quote mark of one that is well formed. -/
theorem skipString_eq_ok_iff {cs rest : List Char} :
    skipString cs = .ok rest ↔ ∃ body, StringSyntax body ∧ cs = body ++ '"' :: rest := by
  constructor
  · intro h
    fun_induction skipString cs with
    | case1 => cases h
    | case2 cs r hskip =>
      cases h
      exact ⟨[], .nil, skipStringItem_eq_false_iff.1 hskip⟩
    | case3 cs r hskip ih =>
      obtain ⟨part, hpart, rfl⟩ := skipStringItem_eq_true_iff.1 hskip
      obtain ⟨body, hbody, rfl⟩ := ih h
      exact ⟨part ++ body, .cons hpart hbody, by rw [List.append_assoc]⟩
  · rintro ⟨body, hbody, rfl⟩
    induction hbody with
    | nil => rw [List.nil_append, skipString_quote]
    | @cons part body hpart hbody ih =>
      have hskip : skipStringItem (part ++ (body ++ '"' :: rest)) =
          .ok (true, body ++ '"' :: rest) := skipStringItem_eq_true_iff.2 ⟨part, hpart, rfl⟩
      rw [List.append_assoc, skipString_part hskip, ih]

/-! ### Writing a string -/

/-- The four digits that a number below 256 is escaped with. -/
theorem isUnit_byte {n : Nat} (hn : n < 256) :
    IsUnit ['0', '0', Nat.digitChar (n / 16), Nat.digitChar (n % 16)] n := by
  have hzero := Text.hexValue?_digitChar (Nat.zero_lt_succ 15)
  have hunit := IsUnit.mk hzero hzero (Text.hexValue?_digitChar (n := n / 16) (by omega))
    (Text.hexValue?_digitChar (n := n % 16) (by omega))
  rwa [show ((0 * 16 + 0) * 16 + n / 16) * 16 + n % 16 = n by omega] at hunit

/-- A character in writing denotes itself. -/
theorem stringItem_writtenChar (c : Char) : StringItem (writtenChar c) c := by
  unfold writtenChar
  split
  case h_8 hquote hback _ _ _ _ _ =>
    split
    · rename_i hcontrol
      have hitem := StringItem.unit (isUnit_byte (n := c.toNat) (by omega)) (by omega)
      rwa [Char.ofNat_toNat] at hitem
    · rename_i hplain
      exact .plain (Nat.not_lt.1 hplain) hquote hback
  all_goals exact .short (by simp [shortEscapes])

/-- **A text in writing** denotes the text it was written from. -/
theorem isLiteral_writtenString (value : String) : IsLiteral (writtenString value) value := by
  refine ⟨_, ?_, rfl⟩
  induction value.toList with
  | nil => exact .nil
  | cons c chars ih => exact .cons (stringItem_writtenChar c) ih

end JournalSite.Json
