import JournalSite.Persona.Json
import JournalSite.Proofs.Json.ValueGrammar

/-!
# The shape of a persona in JSON

A persona is an object in which each of the four names stands once, with a string
for its value, or an array of the four strings in order (`PersonaText`). What else
an object holds has to be JSON (`Derives`) and is otherwise of no account: not how
often a name comes, nor where, nor what a number or a string denotes.

Both shapes are lists of texts with commas between them (`Joined`). That the
members of an object make a persona (`Fits`) is said of them as a whole, without
their order. A reader meets them one by one, and what it knows of the persona grows
on the way: one step (`Takes`) is what a single member adds, a run of steps
(`TakesAll`) what they add together. The closed form of such a run knows of no
order (`takesAll_iff`), so the two say the same (**`fits_iff`**).
-/

namespace JournalSite

open Json

/-! ### Texts with commas between them -/

/-- Texts of one kind with commas between them. -/
inductive Joined {α : Type} (P : α → List Char → Prop) : List α → List Char → Prop where
  /-- The last text. -/
  | last {a : α} {t : List Char} : P a t → Joined P [a] t
  /-- A text that others follow. -/
  | more {a : α} {as : List α} {t u : List Char} : P a t → Joined P as u →
      Joined P (a :: as) (t ++ ',' :: u)

/-- What stands in front of the next text: nothing before the first, and else a comma. -/
def lead (first : Bool) : List Char := if first then [] else [',']

/-- The texts that are still to come, and the bracket that closes them. -/
inductive JoinedUpTo {α : Type} (P : α → List Char → Prop) (closing : Char) (first : Bool) :
    List α → List Char → Prop where
  /-- No more texts. -/
  | close {w : List Char} : Blanks w → JoinedUpTo P closing first [] (w ++ [closing])
  /-- More texts. -/
  | more {as : List α} {w t : List Char} : Blanks w → Joined P as t →
      JoinedUpTo P closing first as (w ++ (lead first ++ (t ++ [closing])))

section Joined

variable {α : Type} {P : α → List Char → Prop} {closing : Char}

/-- The blanks before the next comma or bracket belong to the text in front of them. -/
theorem JoinedUpTo.cons {first : Bool} {a : α} {as : List α} {w p t : List Char} (hw : Blanks w)
    (hp : ∀ w', Blanks w' → P a (p ++ w')) (ht : JoinedUpTo P closing false as t) :
    JoinedUpTo P closing first (a :: as) (w ++ (lead first ++ (p ++ t))) := by
  cases ht with
  | @close w' hw' =>
    have hjoined : JoinedUpTo P closing first [a] _ := .more hw (.last (hp w' hw'))
    simpa only [List.append_assoc] using hjoined
  | @more _ w' u hw' hu =>
    have hjoined : JoinedUpTo P closing first (a :: as) _ := .more hw (.more (hp w' hw') hu)
    simpa only [List.append_assoc, List.cons_append, lead, Bool.false_eq_true, if_false,
      List.nil_append] using hjoined

theorem Joined.blanks_append (hP : ∀ {a t w}, Blanks w → P a t → P a (w ++ t)) {as : List α}
    {w t : List Char} (hw : Blanks w) (ht : Joined P as t) : Joined P as (w ++ t) := by
  cases ht with
  | last ha => exact .last (hP hw ha)
  | more ha hu =>
    rw [← List.append_assoc]
    exact .more (hP hw ha) hu

/-- All texts between two brackets. -/
theorem JoinedUpTo.joined (hP : ∀ {a t w}, Blanks w → P a t → P a (w ++ t)) {a : α} {as : List α}
    {t : List Char} (h : JoinedUpTo P closing true (a :: as) t) :
    ∃ u, Joined P (a :: as) u ∧ t = u ++ [closing] := by
  cases h with
  | @more _ w u hw hu => exact ⟨w ++ u, hu.blanks_append hP hw, by rw [List.append_assoc]; rfl⟩

end Joined

/-! ### The two shapes -/

/-- The members that bear the name of a field. A member is the text that its name denotes and its
value as it stands. -/
def PersonaField.named (f : PersonaField) (ms : List (String × List Char)) :
    List (String × List Char) := ms.filter (·.1 = f.name)

/-- An element of an array: a string between blanks, and the text it denotes. -/
inductive ElementText : String → List Char → Prop where
  /-- The string may have blanks on both sides. -/
  | mk {value : String} {w v w' : List Char} : Blanks w → IsLiteral v value → Blanks w' →
      ElementText value (w ++ (v ++ w'))

/-- A member of an object. -/
inductive MemberText : String × List Char → List Char → Prop where
  /-- There may be blanks around the name and around the value. -/
  | mk {name : String} {w n w₁ w₂ v w' : List Char} : Blanks w → IsLiteral n name → Blanks w₁ →
      Blanks w₂ → Blanks w' →
      MemberText (name, v) (w ++ (n ++ (w₁ ++ ':' :: (w₂ ++ (v ++ w')))))

/-- **The members of an object that is a persona**: each of its four names stands once and has a
string for its value, and the values under other names are JSON. -/
structure Fits (p : Persona) (ms : List (String × List Char)) : Prop where
  /-- One string for each field. -/
  field (f : PersonaField) : ∃ v, IsLiteral v (p.get f) ∧ f.named ms = [(f.name, v)]
  /-- Other members may have any value. -/
  other : ∀ m ∈ ms, (∀ f : PersonaField, m.1 ≠ f.name) → Derives .value m.2

/-- **The texts that are a persona**, with blanks at both ends. -/
inductive PersonaText (p : Persona) : List Char → Prop where
  /-- An object. -/
  | object {ms : List (String × List Char)} {w t w' : List Char} : Blanks w →
      Joined MemberText ms t → Fits p ms → Blanks w' →
      PersonaText p (w ++ '\x7b' :: (t ++ '\x7d' :: w'))
  /-- An array. -/
  | array {w t w' : List Char} : Blanks w →
      Joined ElementText [p.key, p.label, p.description, p.emoji] t → Blanks w' →
      PersonaText p (w ++ '[' :: (t ++ ']' :: w'))

theorem Fits.ne_nil {p : Persona} {ms : List (String × List Char)} (h : Fits p ms) : ms ≠ [] := by
  rintro rfl
  obtain ⟨v, -, hnamed⟩ := h.field .key
  cases hnamed

/-- The blanks in front of an element belong to it. -/
theorem ElementText.blanks_append {value : String} {t w : List Char} (hw : Blanks w)
    (h : ElementText value t) : ElementText value (w ++ t) := by
  cases h with
  | mk hw₀ hv hw' =>
    have htext := ElementText.mk (hw.append hw₀) hv hw'
    rwa [List.append_assoc] at htext

/-- The blanks in front of a member belong to it. -/
theorem MemberText.blanks_append {m : String × List Char} {t w : List Char} (hw : Blanks w)
    (h : MemberText m t) : MemberText m (w ++ t) := by
  cases h with
  | @mk _ _ _ _ _ v _ hw₀ hn hw₁ hw₂ hw' =>
    have htext := MemberText.mk (v := v) (hw.append hw₀) hn hw₁ hw₂ hw'
    rwa [List.append_assoc] at htext

/-! ### Order and other members -/

/-- The order of the members is of no account. -/
theorem Fits.perm {p : Persona} {ms ms' : List (String × List Char)} (h : Fits p ms)
    (hperm : ms'.Perm ms) : Fits p ms' where
  field f := by
    obtain ⟨v, hv, hnamed⟩ := h.field f
    have hperm' : (f.named ms').Perm (f.named ms) := hperm.filter _
    exact ⟨v, hv, List.perm_singleton.1 (hnamed ▸ hperm')⟩
  other m hm := h.other m (hperm.mem_iff.1 hm)

/-- Members with other names are of no account. -/
theorem Fits.append {p : Persona} {ms others : List (String × List Char)} (h : Fits p ms)
    (hnames : ∀ m ∈ others, ∀ f : PersonaField, m.1 ≠ f.name)
    (hvalues : ∀ m ∈ others, Derives .value m.2) : Fits p (ms ++ others) where
  field f := by
    obtain ⟨v, hv, hnamed⟩ := h.field f
    have hnone : f.named others = [] :=
      List.filter_eq_nil_iff.2 fun m hm => by simpa using hnames m hm f
    have hsplit : f.named (ms ++ others) = f.named ms ++ f.named others := List.filter_append ..
    exact ⟨v, hv, by rw [hsplit, hnamed, hnone, List.append_nil]⟩
  other m hm hname := (List.mem_append.1 hm).elim (h.other m · hname) (hvalues m)

/-! ### The fields by name -/

theorem PersonaField.ofName?_name (f : PersonaField) : ofName? f.name = some f := by
  cases f <;> rfl

theorem PersonaField.ofName?_eq_some_iff {s : String} {f : PersonaField} :
    ofName? s = some f ↔ s = f.name := by
  constructor
  · intro h
    unfold ofName? at h
    have hname := List.find?_some h
    exact (beq_iff_eq.1 hname).symm
  · rintro rfl
    exact f.ofName?_name

theorem PersonaField.ofName?_eq_none_iff {s : String} :
    ofName? s = none ↔ ∀ f : PersonaField, s ≠ f.name := by
  simp only [Option.eq_none_iff_forall_not_mem, Option.mem_def, ofName?_eq_some_iff, ne_eq]

theorem PersonaField.name_ne {f g : PersonaField} (h : g ≠ f) : f.name ≠ g.name := by
  cases f <;> cases g <;> simp [name] at h ⊢

theorem PersonaField.named_cons_self (f : PersonaField) (v : List Char)
    (ms : List (String × List Char)) : f.named ((f.name, v) :: ms) = (f.name, v) :: f.named ms :=
  List.filter_cons_of_pos (by simp)

theorem PersonaField.named_cons_of_ne {f : PersonaField} {m : String × List Char}
    (h : m.1 ≠ f.name) (ms : List (String × List Char)) : f.named (m :: ms) = f.named ms :=
  List.filter_cons_of_neg (by simpa using h)

/-! ### What is known of the fields -/

/-- A field of which a text is known. -/
theorem PersonaParts.set_self (parts : PersonaParts) (f : PersonaField) (value : String) :
    parts.set f value f = some value := if_pos rfl

theorem PersonaParts.set_of_ne (parts : PersonaParts) {f g : PersonaField} (h : g ≠ f)
    (value : String) : parts.set f value g = parts g := if_neg h

theorem PersonaParts.require_eq_ok_iff {parts : PersonaParts} {f : PersonaField}
    {value : String} : parts.require f = .ok value ↔ parts f = some value := by
  unfold require
  cases parts f <;> simp

/-- A persona is complete when each of its fields is known. -/
theorem PersonaParts.persona_eq_ok_iff {parts : PersonaParts} {p : Persona} :
    parts.persona = .ok p ↔ ∀ f, parts f = some (p.get f) := by
  constructor
  · intro h f
    obtain ⟨key, hkey, h⟩ := Text.bind_eq_ok_iff.1 h
    obtain ⟨label, hlabel, h⟩ := Text.bind_eq_ok_iff.1 h
    obtain ⟨description, hdescription, h⟩ := Text.bind_eq_ok_iff.1 h
    obtain ⟨emoji, hemoji, h⟩ := Text.bind_eq_ok_iff.1 h
    cases h
    cases f with
    | key => exact require_eq_ok_iff.1 hkey
    | label => exact require_eq_ok_iff.1 hlabel
    | description => exact require_eq_ok_iff.1 hdescription
    | emoji => exact require_eq_ok_iff.1 hemoji
  · intro h
    simp only [persona, require_eq_ok_iff.2 (h _), bind, Except.bind]
    rfl

/-- What a member adds to what is known. -/
inductive Takes (parts : PersonaParts) : String × List Char → PersonaParts → Prop where
  /-- The text of a field of which nothing was known. -/
  | field {f : PersonaField} {v : List Char} {value : String} : parts f = none →
      IsLiteral v value → Takes parts (f.name, v) (parts.set f value)
  /-- Nothing, under another name. -/
  | other {m : String × List Char} : (∀ f : PersonaField, m.1 ≠ f.name) →
      Derives .value m.2 → Takes parts m parts

/-- What members add one after the other. -/
inductive TakesAll : PersonaParts → List (String × List Char) → PersonaParts → Prop where
  /-- No members. -/
  | nil {parts : PersonaParts} : TakesAll parts [] parts
  /-- A member and the others. -/
  | cons {parts mid after : PersonaParts} {m : String × List Char}
      {ms : List (String × List Char)} : Takes parts m mid → TakesAll mid ms after →
      TakesAll parts (m :: ms) after

/-- What becomes known of a field through the members that bear its name: nothing new if there are
none, and else the text of the only one, if nothing was known before. -/
def PersonaField.Learns (f : PersonaField) (ms : List (String × List Char))
    (before after : Option String) : Prop :=
  (f.named ms = [] ∧ after = before) ∨
    ∃ v value, f.named ms = [(f.name, v)] ∧ IsLiteral v value ∧ before = none ∧ after = some value

theorem Takes.value {parts mid : PersonaParts} {m : String × List Char} (h : Takes parts m mid)
    (hname : ∀ f : PersonaField, m.1 ≠ f.name) : Derives .value m.2 := by
  cases h with
  | @field f _ _ _ _ => exact absurd rfl (hname f)
  | other _ hv => exact hv

/-- One member in front of others: what was learned from it comes first. -/
theorem Takes.learns {parts mid after : PersonaParts} {m : String × List Char}
    {ms : List (String × List Char)} (h : Takes parts m mid)
    (hlearns : ∀ f : PersonaField, f.Learns ms (mid f) (after f)) (f : PersonaField) :
    f.Learns (m :: ms) (parts f) (after f) := by
  have hlearned := hlearns f
  cases h with
  | @field g v value hnone hv =>
    by_cases hf : f = g
    · subst hf
      rw [PersonaParts.set_self] at hlearned
      rcases hlearned with ⟨hnamed, hafter⟩ | ⟨_, _, _, _, hmid, _⟩
      · exact .inr ⟨v, value, by rw [f.named_cons_self, hnamed], hv, hnone, hafter⟩
      · cases hmid
    · rw [PersonaParts.set_of_ne parts hf] at hlearned
      rwa [PersonaField.Learns, PersonaField.named_cons_of_ne (PersonaField.name_ne hf)]
  | other hname _ => rwa [PersonaField.Learns, PersonaField.named_cons_of_ne (hname f)]

/-- The other way round: what is learned from the first member can be told apart. -/
theorem exists_takes_of_learns {parts after : PersonaParts} {m : String × List Char}
    {ms : List (String × List Char)}
    (hvalue : (∀ f : PersonaField, m.1 ≠ f.name) → Derives .value m.2)
    (hlearns : ∀ f : PersonaField, f.Learns (m :: ms) (parts f) (after f)) :
    ∃ mid, Takes parts m mid ∧ ∀ f : PersonaField, f.Learns ms (mid f) (after f) := by
  cases hname : PersonaField.ofName? m.1 with
  | none =>
    rw [PersonaField.ofName?_eq_none_iff] at hname
    refine ⟨parts, .other hname (hvalue hname), fun f => ?_⟩
    have hlearned := hlearns f
    rwa [PersonaField.Learns, PersonaField.named_cons_of_ne (hname f)] at hlearned
  | some g =>
    obtain ⟨name, v⟩ := m
    obtain rfl : name = g.name := PersonaField.ofName?_eq_some_iff.1 hname
    rcases hlearns g with ⟨h, -⟩ | ⟨v', value, hnamed, hv, hnone, hafter⟩
    · rw [g.named_cons_self] at h
      cases h
    · rw [g.named_cons_self] at hnamed
      -- the name stands in the first member, so in no other, and nothing was known of it before
      simp only [List.cons.injEq, Prod.mk.injEq, true_and] at hnamed
      obtain ⟨rfl, hnamed⟩ := hnamed
      refine ⟨parts.set g value, .field hnone hv, fun f => ?_⟩
      by_cases hf : f = g
      · subst hf
        exact .inl ⟨hnamed, by rw [PersonaParts.set_self, hafter]⟩
      · have hlearned := hlearns f
        rw [PersonaParts.set_of_ne parts hf]
        rwa [PersonaField.Learns, PersonaField.named_cons_of_ne (PersonaField.name_ne hf)]
          at hlearned

/-- **A run of members**, without their order: each field learns from the members that bear its
name, and the others are JSON. -/
theorem takesAll_iff {parts after : PersonaParts} {ms : List (String × List Char)} :
    TakesAll parts ms after ↔
      (∀ m ∈ ms, (∀ f : PersonaField, m.1 ≠ f.name) → Derives .value m.2) ∧
        ∀ f : PersonaField, f.Learns ms (parts f) (after f) := by
  constructor
  · intro h
    induction h with
    | nil => exact ⟨by simp, fun f => .inl ⟨rfl, rfl⟩⟩
    | cons hm _ ih => exact ⟨List.forall_mem_cons.2 ⟨hm.value, ih.1⟩, hm.learns ih.2⟩
  · rintro ⟨hvalues, hlearns⟩
    induction ms generalizing parts with
    | nil =>
      obtain rfl : after = parts := by
        funext f
        rcases hlearns f with ⟨-, h⟩ | ⟨_, _, h, _⟩
        · exact h
        · cases h
      exact .nil
    | cons m ms ih =>
      obtain ⟨hvalue, hvalues⟩ := List.forall_mem_cons.1 hvalues
      obtain ⟨mid, htakes, hlearns⟩ := exists_takes_of_learns hvalue hlearns
      exact .cons htakes (ih hvalues hlearns)

/-- **The members that make a persona** when they are met one by one are those that fit it. -/
theorem fits_iff {p : Persona} {ms : List (String × List Char)} :
    Fits p ms ↔ ∃ after, TakesAll .none ms after ∧ after.persona = .ok p := by
  constructor
  · intro h
    refine ⟨fun f => some (p.get f), takesAll_iff.2 ⟨h.other, fun f => ?_⟩,
      PersonaParts.persona_eq_ok_iff.2 fun _ => rfl⟩
    obtain ⟨v, hv, hnamed⟩ := h.field f
    exact .inr ⟨v, _, hnamed, hv, rfl, rfl⟩
  · rintro ⟨after, htakes, hpersona⟩
    obtain ⟨hother, hlearns⟩ := takesAll_iff.1 htakes
    refine ⟨fun f => ?_, hother⟩
    have hknown := PersonaParts.persona_eq_ok_iff.1 hpersona f
    rcases hlearns f with ⟨-, h⟩ | ⟨v, value, hnamed, hv, -, hafter⟩
    · rw [hknown] at h
      cases h
    · rw [hknown] at hafter
      cases hafter
      exact ⟨v, hv, hnamed⟩

end JournalSite
