import JournalSite.Proofs.Persona.JsonShape

/-!
# Which JSON texts are read as personas

A text is read as a persona exactly when it has the shape of one
(**`Persona.ofJson?_eq_ok_iff`**), and then as that persona. Each reader has two
lemmas: what it accepts is of a certain form, and a text of this form it accepts.
Where it leaves blanks to the next reader, these belong to the text in front of
them (`JoinedUpTo.cons`), and where it needs to know that a value is over, what
follows has to say so (`Stops`).
-/

namespace JournalSite

open Json

/-! ### Reading a member -/

namespace PersonaReading

theorem readText_eq_ok_iff {cs rest : List Char} {value : String} :
    readText cs = .ok (value, rest) ↔
      ∃ w v, Blanks w ∧ IsLiteral v value ∧ cs = w ++ (v ++ rest) := by
  constructor
  · intro h
    unfold readText at h
    split at h
    · cases h
    · rename_i hquote
      obtain ⟨-, w, hw, rfl⟩ := skipBlanks_eq_cons_iff.1 hquote
      obtain ⟨body, hbody, rfl⟩ := readString_eq_ok_iff.1 h
      exact ⟨w, _, hw, ⟨body, hbody, rfl⟩, by simp⟩
    · cases h
  · rintro ⟨w, v, hw, ⟨body, hbody, rfl⟩, rfl⟩
    have hread := readString_eq_ok_iff.2 ⟨body, hbody, (rfl : _ = body ++ '"' :: rest)⟩
    rw [readText, skipBlanks_append hw, List.cons_append, List.append_assoc, skipBlanks_cons rfl]
    exact hread

theorem readColon_eq_ok_iff {cs rest : List Char} :
    readColon cs = .ok rest ↔ ∃ w, Blanks w ∧ cs = w ++ ':' :: rest := by
  constructor
  · intro h
    unfold readColon at h
    split at h
    · cases h
    · rename_i hcolon
      cases h
      exact (skipBlanks_eq_cons_iff.1 hcolon).2
    · cases h
  · rintro ⟨w, hw, rfl⟩
    rw [readColon, skipBlanks_append hw, skipBlanks_cons rfl]
    rfl

/-- A member that is read adds to what is known. -/
theorem exists_takes_of_readMember {parts after : PersonaParts} {cs rest : List Char}
    (h : readMember parts cs = .ok (after, rest)) :
    ∃ name body w w' v, StringBody body name.toList ∧ Blanks w ∧ Blanks w' ∧
      Takes parts (name, v) after ∧ cs = body ++ '"' :: (w ++ ':' :: (w' ++ (v ++ rest))) := by
  obtain ⟨⟨name, r⟩, hname, hmember⟩ := Text.bind_eq_ok_iff.1 h
  obtain ⟨body, hbody, rfl⟩ := readString_eq_ok_iff.1 hname
  simp only at hmember
  split at hmember
  · rename_i f hf
    rw [PersonaField.ofName?_eq_some_iff] at hf
    subst hf
    split at hmember
    · cases hmember
    · rename_i hnone
      obtain ⟨r', hcolon, hmember⟩ := Text.bind_eq_ok_iff.1 hmember
      obtain ⟨⟨value, r''⟩, htext, hafter⟩ := Text.bind_eq_ok_iff.1 hmember
      cases hafter
      obtain ⟨w, hw, rfl⟩ := readColon_eq_ok_iff.1 hcolon
      obtain ⟨w', v, hw', hv, rfl⟩ := readText_eq_ok_iff.1 htext
      exact ⟨_, body, w, w', v, hbody, hw, hw', .field (by simpa using hnone) hv, rfl⟩
  · rename_i hnone
    rw [PersonaField.ofName?_eq_none_iff] at hnone
    obtain ⟨r', hcolon, hmember⟩ := Text.bind_eq_ok_iff.1 hmember
    obtain ⟨r'', hskip, hafter⟩ := Text.bind_eq_ok_iff.1 hmember
    cases hafter
    obtain ⟨w, hw, rfl⟩ := readColon_eq_ok_iff.1 hcolon
    obtain ⟨w', v, hw', hv, rfl⟩ := exists_value_of_skipValue hskip
    exact ⟨name, body, w, w', v, hbody, hw, hw', .other hnone hv, rfl⟩

theorem readMember_append {parts after : PersonaParts} {name : String}
    {body w w' v rest : List Char} (hbody : StringBody body name.toList) (hw : Blanks w)
    (hw' : Blanks w') (h : Takes parts (name, v) after) (hrest : Stops rest) :
    readMember parts (body ++ '"' :: (w ++ ':' :: (w' ++ (v ++ rest)))) = .ok (after, rest) := by
  have hname := readString_eq_ok_iff.2
    ⟨body, hbody, (rfl : _ = body ++ '"' :: (w ++ ':' :: (w' ++ (v ++ rest))))⟩
  have hcolon := readColon_eq_ok_iff.2 ⟨w, hw, (rfl : _ = w ++ ':' :: (w' ++ (v ++ rest)))⟩
  cases h with
  | @field f v value hnone hv =>
    have htext := readText_eq_ok_iff.2 ⟨w', v, hw', hv, (rfl : _ = w' ++ (v ++ rest))⟩
    simp only [readMember, hname, bind, Except.bind, f.ofName?_name, hnone, Option.isSome_none,
      Bool.false_eq_true, if_false, hcolon, htext]
  | other hother hv =>
    have hskip := skipValue_append hw' hv hrest
    simp only [readMember, hname, bind, Except.bind, PersonaField.ofName?_eq_none_iff.2 hother,
      hcolon, hskip]

/-! ### Reading the members of an object -/

theorem nextName_eq_closed_iff {first : Bool} {cs rest : List Char} :
    nextName first cs = .ok (false, rest) ↔ ∃ w, Blanks w ∧ cs = w ++ '\x7d' :: rest := by
  constructor
  · intro h
    unfold nextName at h
    split at h
    case h_2 hbrace =>
      cases h
      exact (skipBlanks_eq_cons_iff.1 hbrace).2
    case h_1 => cases h
    case h_3 =>
      repeat' split at h
      all_goals cases h
  · rintro ⟨w, hw, rfl⟩
    rw [nextName, skipBlanks_append hw, skipBlanks_cons rfl]
    rfl

theorem exists_lead_of_nextName {first : Bool} {cs rest : List Char}
    (h : nextName first cs = .ok (true, rest)) :
    ∃ w w', Blanks w ∧ Blanks w' ∧ cs = w ++ (lead first ++ (w' ++ '"' :: rest)) := by
  unfold nextName at h
  split at h
  · cases h
  · cases h
  · rename_i c r _ hfirst
    obtain ⟨-, w, hw, rfl⟩ := skipBlanks_eq_cons_iff.1 hfirst
    split at h
    · rename_i hyes
      split at h
      · rename_i hquote
        cases h
        exact ⟨w, [], hw, blanks_nil, by rw [hyes, hquote]; rfl⟩
      · cases h
    · rename_i hno
      split at h
      · rename_i hcomma
        split at h
        · cases h
        · rename_i hquote
          obtain ⟨-, w', hw', rfl⟩ := skipBlanks_eq_cons_iff.1 hquote
          cases h
          exact ⟨w, w', hw, hw', by rw [Bool.eq_false_iff.2 hno, hcomma]; rfl⟩
        · cases h
      · cases h

theorem nextName_append (first : Bool) {w w' : List Char} (hw : Blanks w) (hw' : Blanks w')
    (rest : List Char) :
    nextName first (w ++ (lead first ++ (w' ++ '"' :: rest))) = .ok (true, rest) := by
  have hquote := skipBlanks_eq_cons_iff.2 ⟨rfl, w', hw', (rfl : _ = w' ++ '"' :: rest)⟩
  cases first with
  | true =>
    rw [nextName, skipBlanks_append hw, show lead true = [] from rfl, List.nil_append, hquote]
    rfl
  | false =>
    rw [nextName, skipBlanks_append hw, show lead false = [','] from rfl, List.singleton_append,
      skipBlanks_cons rfl]
    split
    case h_3 hfirst =>
      cases hfirst
      simp [hquote]
    all_goals simp_all

/-- Reading goes on after a member with what is known by then. -/
theorem readMembers_member {first : Bool} {parts mid : PersonaParts} {cs r rest : List Char}
    (hname : nextName first cs = .ok (true, r)) (hmember : readMember parts r = .ok (mid, rest)) :
    readMembers first parts cs = readMembers false mid rest := by
  conv_lhs => rw [readMembers]
  split
  case h_3 hn =>
    cases hname.symm.trans hn
    split
    case h_2 hm =>
      cases hmember.symm.trans hm
      rfl
    case h_1 hm => cases hmember.symm.trans hm
  case h_1 hn => cases hname.symm.trans hn
  case h_2 hn => cases hname.symm.trans hn

theorem readMembers_closed {first : Bool} {parts : PersonaParts} {cs rest : List Char}
    (hname : nextName first cs = .ok (false, rest)) :
    readMembers first parts cs = parts.persona.map fun persona => (persona, rest) := by
  rw [readMembers]
  split
  case h_2 hn =>
    cases hname.symm.trans hn
    rfl
  case h_1 hn => cases hname.symm.trans hn
  case h_3 hn => cases hname.symm.trans hn

theorem exists_joinedUpTo_of_readMembers {first : Bool} {parts : PersonaParts}
    {cs rest : List Char} {p : Persona} (h : readMembers first parts cs = .ok (p, rest)) :
    ∃ ms t after, JoinedUpTo MemberText '\x7d' first ms t ∧ cs = t ++ rest ∧
      TakesAll parts ms after ∧ after.persona = .ok p := by
  fun_induction readMembers first parts cs with
  | case1 => cases h
  | case2 first parts cs r hnext =>
    obtain ⟨p', hpersona, hp⟩ := map_eq_ok_iff.1 h
    cases hp
    obtain ⟨w, hw, rfl⟩ := nextName_eq_closed_iff.1 hnext
    exact ⟨[], _, parts, .close hw, by simp, .nil, hpersona⟩
  | case3 => cases h
  | case4 first parts cs r hnext mid r' hmember ih =>
    obtain ⟨w, w₀, hw, hw₀, rfl⟩ := exists_lead_of_nextName hnext
    obtain ⟨name, body, w₁, w₂, v, hbody, hw₁, hw₂, htakes, rfl⟩ :=
      exists_takes_of_readMember hmember
    obtain ⟨ms, t, after, ht, rfl, hall, hpersona⟩ := ih h
    -- the member ends where the next one begins: with the blanks that the next step skips
    have hmember : ∀ w', Blanks w' → MemberText (name, v)
        (w₀ ++ ('"' :: (body ++ ['"']) ++ (w₁ ++ ':' :: (w₂ ++ v))) ++ w') := by
      intro w' hw'
      have htext := MemberText.mk (v := v) hw₀ ⟨body, hbody, rfl⟩ hw₁ hw₂ hw'
      simpa only [List.append_assoc, List.cons_append] using htext
    exact ⟨(name, v) :: ms, _, after, .cons hw hmember ht, by simp, .cons htakes hall, hpersona⟩

/-- Reading a member and what stands after it. -/
theorem readMembers_memberText (first : Bool) {parts mid : PersonaParts}
    {m : String × List Char} {w t rest : List Char} (hw : Blanks w) (ht : MemberText m t)
    (htakes : Takes parts m mid) (hrest : Stops rest) :
    ∃ w', Blanks w' ∧ readMembers first parts (w ++ (lead first ++ (t ++ rest))) =
      readMembers false mid (w' ++ rest) := by
  cases ht with
  | @mk name w₀ n w₁ w₂ v w' hw₀ hn hw₁ hw₂ hw' =>
    obtain ⟨body, hbody, rfl⟩ := hn
    have hname := nextName_append first hw hw₀
      (body ++ '"' :: (w₁ ++ ':' :: (w₂ ++ (v ++ (w' ++ rest)))))
    have hmember := readMember_append hbody hw₁ hw₂ htakes (hrest.blanks_append hw')
    refine ⟨w', hw', ?_⟩
    rw [← readMembers_member hname hmember]
    simp only [List.append_assoc, List.cons_append, List.nil_append]

/-- Members that make a persona are read as it. -/
theorem readMembers_append (first : Bool) {parts after : PersonaParts}
    {ms : List (String × List Char)} {w t : List Char} {p : Persona} (hw : Blanks w)
    (ht : Joined MemberText ms t) (htakes : TakesAll parts ms after)
    (hpersona : after.persona = .ok p) (rest : List Char) :
    readMembers first parts (w ++ (lead first ++ (t ++ '\x7d' :: rest))) = .ok (p, rest) := by
  induction ht generalizing first parts w with
  | last hm =>
    cases htakes with
    | cons htake hnil =>
      cases hnil
      obtain ⟨w', hw', hread⟩ :=
        readMembers_memberText first hw hm htake (stops_closing .object rest)
      rw [Bracket.closing] at hread
      rw [hread, readMembers_closed (nextName_eq_closed_iff.2 ⟨w', hw', rfl⟩), hpersona]
      rfl
  | @more m ms t u hm hu ih =>
    cases htakes with
    | cons htake hall =>
      obtain ⟨w', hw', hread⟩ := readMembers_memberText first hw hm htake
        (stops_cons (.head _) (u ++ '\x7d' :: rest))
      rw [List.append_assoc, List.cons_append, hread]
      exact ih false hw' hall

/-! ### Reading the elements of an array -/

theorem exists_lead_of_nextElement {first : Bool} {cs rest : List Char}
    (h : nextElement first cs = .ok (some rest)) :
    ∃ w w', Blanks w ∧ Blanks w' ∧ cs = w ++ (lead first ++ (w' ++ rest)) := by
  unfold nextElement at h
  split at h
  · cases h
  · cases h
  · rename_i c r _ hfirst
    obtain ⟨-, w, hw, rfl⟩ := skipBlanks_eq_cons_iff.1 hfirst
    split at h
    · rename_i hyes
      cases h
      exact ⟨w, [], hw, blanks_nil, by rw [hyes]; rfl⟩
    · rename_i hno
      split at h
      · rename_i hcomma
        obtain ⟨w', hw', hr⟩ := exists_blanks_append_skipBlanks r
        split at h
        · cases h
        · cases h
        · cases h
          exact ⟨w, w', hw, hw', by rw [Bool.eq_false_iff.2 hno, hcomma, ← hr]; rfl⟩
      · cases h

theorem nextElement_append (first : Bool) {w w' : List Char} (hw : Blanks w) (hw' : Blanks w')
    (rest : List Char) :
    nextElement first (w ++ (lead first ++ (w' ++ '"' :: rest))) = .ok (some ('"' :: rest)) := by
  have hquote := skipBlanks_eq_cons_iff.2 ⟨rfl, w', hw', (rfl : _ = w' ++ '"' :: rest)⟩
  cases first with
  | true =>
    rw [nextElement, skipBlanks_append hw, show lead true = [] from rfl, List.nil_append, hquote]
    rfl
  | false =>
    rw [nextElement, skipBlanks_append hw, show lead false = [','] from rfl,
      List.singleton_append, skipBlanks_cons rfl]
    split
    case h_3 hfirst =>
      cases hfirst
      simp [hquote]
    all_goals simp_all

/-- What is known after further fields were set one after the other. -/
def fill (parts : PersonaParts) (values : List (PersonaField × String)) : PersonaParts :=
  values.foldl (fun parts (f, value) => parts.set f value) parts

theorem exists_joinedUpTo_of_readElements {count : Nat} {parts after : PersonaParts}
    {fields : List PersonaField} {cs w rest : List Char} (hw : Blanks w)
    (h : readElements count parts fields cs = .ok (after, w ++ ']' :: rest)) :
    ∃ values t, JoinedUpTo ElementText ']' (count == 0) values t ∧ cs = t ++ rest ∧
      values.length = fields.length ∧ after = fill parts (fields.zip values) := by
  induction fields generalizing count parts cs with
  | nil =>
    cases h
    exact ⟨[], _, .close hw, by simp, rfl, rfl⟩
  | cons f fields ih =>
    unfold readElements at h
    split at h
    · cases h
    · cases h
    · rename_i r hnext
      split at h
      · cases h
      · rename_i value r' htext
        obtain ⟨w₁, w₂, hw₁, hw₂, rfl⟩ := exists_lead_of_nextElement hnext
        obtain ⟨w₃, v, hw₃, hv, rfl⟩ := readText_eq_ok_iff.1 htext
        obtain ⟨values, t, ht, rfl, hlength, hafter⟩ := ih h
        have helement : ∀ w', Blanks w' → ElementText value (w₂ ++ (w₃ ++ v) ++ w') := by
          intro w' hw'
          have helement := ElementText.mk (hw₂.append hw₃) hv hw'
          simpa only [List.append_assoc] using helement
        exact ⟨value :: values, _, .cons hw₁ helement ht, by simp, by simp [hlength], hafter⟩

/-- Reading an element and what stands after it. -/
theorem readElements_elementText (count : Nat) (parts : PersonaParts) (f : PersonaField)
    (fields : List PersonaField) {value : String} {w t : List Char} (hw : Blanks w)
    (ht : ElementText value t) (rest : List Char) :
    ∃ w', Blanks w' ∧
      readElements count parts (f :: fields) (w ++ (lead (count == 0) ++ (t ++ rest))) =
        readElements (count + 1) (parts.set f value) fields (w' ++ rest) := by
  cases ht with
  | @mk w₀ v w' hw₀ hv hw' =>
    refine ⟨w', hw', ?_⟩
    have htext := readText_eq_ok_iff.2 ⟨[], v, blanks_nil, hv, (rfl : _ = v ++ (w' ++ rest))⟩
    obtain ⟨body, -, rfl⟩ := hv
    have hnext := nextElement_append (count == 0) hw hw₀ (body ++ '"' :: (w' ++ rest))
    simp only [List.append_assoc, List.cons_append, List.nil_append] at htext ⊢
    conv_lhs => rw [readElements]
    simp only [hnext, htext]

theorem readElements_append (count : Nat) (parts : PersonaParts) {fields : List PersonaField}
    {values : List String} {w t : List Char} (hw : Blanks w) (ht : Joined ElementText values t)
    (hlength : values.length = fields.length) (rest : List Char) :
    ∃ w', Blanks w' ∧
      readElements count parts fields (w ++ (lead (count == 0) ++ (t ++ ']' :: rest))) =
        .ok (fill parts (fields.zip values), w' ++ ']' :: rest) := by
  induction ht generalizing count parts fields w with
  | @last value t hvalue =>
    obtain ⟨f, rfl⟩ := List.length_eq_one_iff.1 hlength.symm
    obtain ⟨w', hw', hread⟩ := readElements_elementText count parts f [] hw hvalue (']' :: rest)
    exact ⟨w', hw', hread⟩
  | @more value values t u hvalue hu ih =>
    obtain ⟨f, fields, rfl⟩ := List.exists_of_length_succ fields (n := values.length) hlength.symm
    obtain ⟨w', hw', hread⟩ := readElements_elementText count parts f fields hw hvalue
      (',' :: (u ++ ']' :: rest))
    obtain ⟨w'', hw'', hrest⟩ := ih (count + 1) (parts.set f value) hw' (Nat.succ.inj hlength)
    refine ⟨w'', hw'', ?_⟩
    rw [List.append_assoc, List.cons_append, hread]
    exact hrest

/-- **An array is read as a persona** when it holds the four texts of it in order. -/
theorem readArray_eq_ok_iff {cs rest : List Char} {p : Persona} :
    readArray cs = .ok (p, rest) ↔
      ∃ t, Joined ElementText [p.key, p.label, p.description, p.emoji] t ∧
        cs = t ++ ']' :: rest := by
  constructor
  · intro h
    obtain ⟨⟨parts, r⟩, helements, h⟩ := Text.bind_eq_ok_iff.1 h
    obtain ⟨p', hpersona, h⟩ := Text.bind_eq_ok_iff.1 h
    split at h
    · cases h
    · rename_i hbracket
      cases h
      obtain ⟨-, w, hw, rfl⟩ := skipBlanks_eq_cons_iff.1 hbracket
      obtain ⟨values, t, ht, rfl, hlength, rfl⟩ := exists_joinedUpTo_of_readElements hw helements
      match values, hlength with
      | [key, label, description, emoji], _ =>
        cases hpersona
        obtain ⟨u, hu, rfl⟩ := ht.joined ElementText.blanks_append
        exact ⟨u, hu, by rw [List.append_assoc]; rfl⟩
    · cases h
  · rintro ⟨t, ht, rfl⟩
    obtain ⟨w', hw', hread⟩ := readElements_append 0 .none blanks_nil ht
      (rfl : _ = PersonaField.all.length) rest
    have helements : readElements 0 .none PersonaField.all (t ++ ']' :: rest) = _ := hread
    have hpersona : (fill .none
        (PersonaField.all.zip [p.key, p.label, p.description, p.emoji])).persona = .ok p := rfl
    have hbracket := skipBlanks_eq_cons_iff.2 ⟨rfl, w', hw', (rfl : _ = w' ++ ']' :: rest)⟩
    simp only [readArray, helements, hpersona, hbracket, bind, Except.bind]

/-! ### Reading the whole text -/

/-- **An object is read as a persona** when its members fit it. -/
theorem readMembers_eq_ok_iff {cs rest : List Char} {p : Persona} :
    readMembers true .none cs = .ok (p, rest) ↔
      ∃ ms t, Joined MemberText ms t ∧ Fits p ms ∧ cs = t ++ '\x7d' :: rest := by
  constructor
  · intro h
    obtain ⟨ms, t, after, ht, rfl, htakes, hpersona⟩ := exists_joinedUpTo_of_readMembers h
    have hfits : Fits p ms := fits_iff.2 ⟨after, htakes, hpersona⟩
    match ms, hfits.ne_nil with
    | m :: ms, _ =>
      obtain ⟨u, hu, rfl⟩ := ht.joined MemberText.blanks_append
      exact ⟨m :: ms, u, hu, hfits, by rw [List.append_assoc]; rfl⟩
  · rintro ⟨ms, t, ht, hfits, rfl⟩
    obtain ⟨after, htakes, hpersona⟩ := fits_iff.1 hfits
    exact readMembers_append true blanks_nil ht htakes hpersona rest

theorem readPersona_eq_ok_iff {cs rest : List Char} {p : Persona} :
    readPersona cs = .ok (p, rest) ↔
      (∃ w ms t, Blanks w ∧ Joined MemberText ms t ∧ Fits p ms ∧
        cs = w ++ '\x7b' :: (t ++ '\x7d' :: rest)) ∨
      ∃ w t, Blanks w ∧ Joined ElementText [p.key, p.label, p.description, p.emoji] t ∧
        cs = w ++ '[' :: (t ++ ']' :: rest) := by
  constructor
  · intro h
    unfold readPersona at h
    split at h
    · cases h
    · rename_i hbracket
      obtain ⟨-, w, hw, rfl⟩ := skipBlanks_eq_cons_iff.1 hbracket
      obtain ⟨t, ht, rfl⟩ := readArray_eq_ok_iff.1 h
      exact .inr ⟨w, t, hw, ht, rfl⟩
    · rename_i hbrace
      obtain ⟨-, w, hw, rfl⟩ := skipBlanks_eq_cons_iff.1 hbrace
      obtain ⟨ms, t, ht, hfits, rfl⟩ := readMembers_eq_ok_iff.1 h
      exact .inl ⟨w, ms, t, hw, ht, hfits, rfl⟩
    · cases h
  · rintro (⟨w, ms, t, hw, ht, hfits, rfl⟩ | ⟨w, t, hw, ht, rfl⟩)
    · rw [readPersona, skipBlanks_append hw, skipBlanks_cons rfl]
      exact readMembers_eq_ok_iff.2 ⟨ms, t, ht, hfits, rfl⟩
    · rw [readPersona, skipBlanks_append hw, skipBlanks_cons rfl]
      exact readArray_eq_ok_iff.2 ⟨t, ht, rfl⟩

end PersonaReading

open PersonaReading

theorem ofJson?_eq_ok_iff_exists_readPersona {text : String} {p : Persona} :
    Persona.ofJson? text = .ok p ↔ ∃ w, Blanks w ∧ readPersona text.toList = .ok (p, w) := by
  have hend : ∀ rest, (skipBlanks rest).isEmpty = true ↔ Blanks rest := by
    intro rest
    rw [List.isEmpty_iff, skipBlanks_eq_nil_iff]
  unfold Persona.ofJson?
  cases readPersona text.toList with
  | error fault => simp
  | ok read =>
    obtain ⟨q, rest⟩ := read
    simp only
    split
    · rename_i hrest
      constructor
      · intro h
        cases h
        exact ⟨rest, (hend rest).1 hrest, rfl⟩
      · rintro ⟨w, -, h⟩
        cases h
        rfl
    · rename_i hrest
      constructor
      · intro h
        cases h
      · rintro ⟨w, hw, h⟩
        cases h
        exact absurd ((hend rest).2 hw) hrest

/-- A persona is read from each text of its shape. -/
theorem PersonaText.ofJson?_eq_ok {text : String} {p : Persona} (h : PersonaText p text.toList) :
    Persona.ofJson? text = .ok p := by
  rw [ofJson?_eq_ok_iff_exists_readPersona]
  generalize text.toList = cs at h
  cases h with
  | @object ms w t w' hw ht hfits hw' =>
    exact ⟨w', hw', readPersona_eq_ok_iff.2 (.inl ⟨w, ms, t, hw, ht, hfits, rfl⟩)⟩
  | @array w t w' hw ht hw' =>
    exact ⟨w', hw', readPersona_eq_ok_iff.2 (.inr ⟨w, t, hw, ht, rfl⟩)⟩

/-- No persona is read from any other text. -/
theorem PersonaText.of_ofJson? {text : String} {p : Persona} (h : Persona.ofJson? text = .ok p) :
    PersonaText p text.toList := by
  obtain ⟨w', hw', hread⟩ := ofJson?_eq_ok_iff_exists_readPersona.1 h
  rcases readPersona_eq_ok_iff.1 hread with ⟨w, ms, t, hw, ht, hfits, htext⟩ | ⟨w, t, hw, ht, htext⟩
  · rw [htext]
    exact .object hw ht hfits hw'
  · rw [htext]
    exact .array hw ht hw'

/-- **The texts that are read as a persona** are those of its shape. In particular an object that
is read as a persona is read as the same one with its members in another order, with members of
other names among them, and with other blanks. -/
theorem Persona.ofJson?_eq_ok_iff :
    (∀ (text : String) (p : Persona),
      Persona.ofJson? text = .ok p ↔ PersonaText p text.toList) ∧
    ∀ (p : Persona) (ms ms' others : List (String × List Char)) (w t w' : List Char),
      Fits p ms → (∀ m ∈ others, ∀ f : PersonaField, m.1 ≠ f.name) →
      (∀ m ∈ others, Derives .value m.2) → ms'.Perm (ms ++ others) →
      Blanks w → Joined MemberText ms' t → Blanks w' →
      Persona.ofJson? (String.ofList (w ++ '\x7b' :: (t ++ '\x7d' :: w'))) = .ok p := by
  refine ⟨fun text p => ⟨PersonaText.of_ofJson?, PersonaText.ofJson?_eq_ok⟩, ?_⟩
  intro p ms ms' others w t w' hfits hnames hvalues hperm hw ht hw'
  have hfits' : Fits p ms' := (hfits.append hnames hvalues).perm hperm
  refine PersonaText.ofJson?_eq_ok ?_
  rw [String.toList_ofList]
  exact .object hw ht hfits' hw'

example : Persona.ofJson? "[\"k\", \"L\\u00e9a\",\"\" , \"\\ud83e\\udd1d\"]" =
    .ok ⟨"k", "Léa", "", "🤝"⟩ := by cbv

end JournalSite
