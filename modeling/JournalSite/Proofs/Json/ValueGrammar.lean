import JournalSite.Json.Skip
import JournalSite.Proofs.Json.NumberGrammar

/-!
# The grammar of JSON values

The values of JSON (RFC 8259), nested to any depth, said without a reader
(`Derives`): three words, numbers, strings that are well formed, and the two kinds
of bracket, empty or with items between commas. An item is a value between blanks;
inside an object it has a name and a colon in front.

`skipValue` keeps a list of the brackets that are open. That list is a way to call
itself: what it does inside a bracket is to skip one item after another, each of
them as if the value stood alone (`skipOpen_singleton`). From this the two
directions follow. What is skipped is a value of the grammar
(**`exists_value_of_skipValue`**), and each value is skipped
(**`skipValue_append`**), if what follows may follow a value (`Stops`): a number
would otherwise go on.
-/

namespace JournalSite.Json

/-! ### The grammar -/

/-- The character that opens a bracket. -/
def Bracket.opening : Bracket → Char
  | array => '['
  | object => '\x7b'

/-- What stands in front of the value of an item. -/
inductive ItemLabel : Bracket → List Char → Prop where
  /-- Nothing in an array. -/
  | array : ItemLabel .array []
  /-- Name and colon in an object. -/
  | object {w body w' : List Char} : Blanks w → StringSyntax body → Blanks w' →
      ItemLabel .object (w ++ '"' :: (body ++ '"' :: (w' ++ [':'])))

/-- What the grammar describes. -/
inductive Symbol where
  /-- A value. -/
  | value
  /-- What stands between two commas inside a bracket. -/
  | item (bracket : Bracket)
  /-- All that stands inside a bracket, if it is not empty. -/
  | items (bracket : Bracket)

/-- **The values of JSON**, and what stands inside their brackets. -/
inductive Derives : Symbol → List Char → Prop where
  /-- A word. -/
  | word {t : List Char} : t ∈ ["null".toList, "true".toList, "false".toList] → Derives .value t
  /-- A number. -/
  | number {t : List Char} : NumberText t → Derives .value t
  /-- A string. -/
  | string {body : List Char} : StringSyntax body → Derives .value ('"' :: (body ++ ['"']))
  /-- An empty bracket. -/
  | empty {b : Bracket} {w : List Char} : Blanks w →
      Derives .value (b.opening :: (w ++ [b.closing]))
  /-- A bracket with items. -/
  | filled {b : Bracket} {t : List Char} : Derives (.items b) t →
      Derives .value (b.opening :: (t ++ [b.closing]))
  /-- An item. -/
  | item {b : Bracket} {l w v w' : List Char} : ItemLabel b l → Blanks w → Derives .value v →
      Blanks w' → Derives (.item b) (l ++ (w ++ (v ++ w')))
  /-- The last item. -/
  | last {b : Bracket} {i : List Char} : Derives (.item b) i → Derives (.items b) i
  /-- An item that others follow. -/
  | more {b : Bracket} {i t : List Char} : Derives (.item b) i → Derives (.items b) t →
      Derives (.items b) (i ++ ',' :: t)

/-- A text that may follow a value: it is over, or goes on with a blank, a comma or the end of a
bracket. -/
def Stops (cs : List Char) : Prop :=
  ∀ c rest, cs = c :: rest → isBlank c = true ∨ c ∈ [',', ']', '\x7d']

theorem stops_cons {c : Char} (hc : c ∈ [',', ']', '\x7d']) (rest : List Char) :
    Stops (c :: rest) := by
  intro c' rest' h
  cases h
  exact .inr hc

theorem stops_closing (b : Bracket) (rest : List Char) : Stops (b.closing :: rest) :=
  stops_cons (by cases b <;> simp [Bracket.closing]) rest

theorem Stops.blanks_append {w rest : List Char} (hw : Blanks w) (hrest : Stops rest) :
    Stops (w ++ rest) := by
  cases w with
  | nil => exact hrest
  | cons c w =>
    intro c' rest' h
    cases h
    exact .inl (hw c List.mem_cons_self)

theorem Stops.endsNumber {cs : List Char} (h : Stops cs) : EndsNumber cs := by
  intro c rest hcs
  have hc := h c rest hcs
  simp only [isBlank, Bool.or_eq_true, decide_eq_true_eq, List.mem_cons, List.not_mem_nil,
    or_false] at hc
  rcases hc with (((rfl | rfl) | rfl) | rfl) | rfl | rfl | rfl <;> decide

theorem Blanks.append {w w' : List Char} (hw : Blanks w) (hw' : Blanks w') : Blanks (w ++ w') :=
  fun c hc => (List.mem_append.1 hc).elim (hw c) (hw' c)

/-- An item may have further blanks in front. -/
theorem Derives.item_blanks_append {b : Bracket} {w i : List Char} (hw : Blanks w)
    (hi : Derives (.item b) i) : Derives (.item b) (w ++ i) := by
  cases hi with
  | item hlabel hw₁ hv hw₂ =>
    cases hlabel with
    | array =>
      have hitem := Derives.item .array (hw.append hw₁) hv hw₂
      rwa [List.nil_append, List.append_assoc] at hitem
    | object hw₃ hbody hw₄ =>
      have hitem := Derives.item (.object (hw.append hw₃) hbody hw₄) hw₁ hv hw₂
      simpa only [List.append_assoc] using hitem

theorem Derives.items_blanks_append {b : Bracket} {w t : List Char} (hw : Blanks w)
    (ht : Derives (.items b) t) : Derives (.items b) (w ++ t) := by
  cases ht with
  | last hi => exact .last (hi.item_blanks_append hw)
  | more hi ht =>
    rw [← List.append_assoc]
    exact .more (hi.item_blanks_append hw) ht

/-! ### The beginning of a value -/

theorem readWord_eq_ok_iff {ws cs rest : List Char} :
    readWord ws cs = .ok rest ↔ cs = ws ++ rest := by
  induction ws generalizing cs with
  | nil => simp [readWord]
  | cons w ws ih =>
    cases cs with
    | nil => simp [readWord]
    | cons c cs =>
      rw [readWord]
      split
      · rename_i hc
        simp [ih, hc]
      · rename_i hc
        simp [hc]

/-- A step that skips a value to its end. -/
theorem map_whole_eq_iff {step : Except Fault (List Char)} {rest : List Char} :
    step.map Begun.whole = .ok (.whole rest) ↔ step = .ok rest := by
  simp [map_eq_ok_iff]

theorem map_whole_ne_opened (step : Except Fault (List Char)) (b : Bracket) (rest : List Char) :
    step.map Begun.whole ≠ .ok (.opened b rest) := by
  simp [map_eq_ok_iff]

theorem exists_value_of_beginValue {cs rest : List Char} (h : beginValue cs = .ok (.whole rest)) :
    ∃ w v, Blanks w ∧ Derives .value v ∧ cs = w ++ (v ++ rest) := by
  obtain ⟨w, hw, hcs⟩ := exists_blanks_append_skipBlanks cs
  unfold beginValue at h
  split at h
  case h_1 => cases h
  case h_2 hfirst =>
    rw [readWord_eq_ok_iff.1 (map_whole_eq_iff.1 h)] at hfirst
    exact ⟨w, _, hw, .word (.head _), by rw [hcs, hfirst]; rfl⟩
  case h_3 hfirst =>
    rw [readWord_eq_ok_iff.1 (map_whole_eq_iff.1 h)] at hfirst
    exact ⟨w, _, hw, .word (.tail _ (.head _)), by rw [hcs, hfirst]; rfl⟩
  case h_4 hfirst =>
    rw [readWord_eq_ok_iff.1 (map_whole_eq_iff.1 h)] at hfirst
    exact ⟨w, _, hw, .word (.tail _ (.tail _ (.head _))), by rw [hcs, hfirst]; rfl⟩
  case h_5 hfirst =>
    obtain ⟨body, hbody, hr⟩ := skipString_eq_ok_iff.1 (map_whole_eq_iff.1 h)
    exact ⟨w, _, hw, .string hbody, by rw [hcs, hfirst, hr]; simp⟩
  case h_6 => cases h
  case h_7 => cases h
  case h_8 hfirst =>
    split at h
    · obtain ⟨t, ht, hr⟩ := exists_numberText_of_skipNumber (map_whole_eq_iff.1 h)
      exact ⟨w, t, hw, .number ht, by rw [hcs, hfirst, hr]⟩
    · cases h

theorem exists_blanks_of_beginValue {cs rest : List Char} {b : Bracket}
    (h : beginValue cs = .ok (.opened b rest)) : ∃ w, Blanks w ∧ cs = w ++ b.opening :: rest := by
  obtain ⟨w, hw, hcs⟩ := exists_blanks_append_skipBlanks cs
  unfold beginValue at h
  split at h
  case h_1 => cases h
  case h_6 hfirst =>
    cases h
    exact ⟨w, hw, by rw [hcs, hfirst]; rfl⟩
  case h_7 hfirst =>
    cases h
    exact ⟨w, hw, by rw [hcs, hfirst]; rfl⟩
  case h_8 =>
    split at h
    · exact absurd h (map_whole_ne_opened _ _ _)
    · cases h
  all_goals exact absurd h (map_whole_ne_opened _ _ _)

theorem beginValue_blanks_append {w : List Char} (hw : Blanks w) (cs : List Char) :
    beginValue (w ++ cs) = beginValue cs := by
  rw [beginValue, skipBlanks_append hw, ← beginValue]

theorem beginValue_opening (b : Bracket) (rest : List Char) :
    beginValue (b.opening :: rest) = .ok (.opened b rest) := by
  cases b <;> rfl

theorem beginValue_word {t : List Char}
    (ht : t ∈ ["null".toList, "true".toList, "false".toList]) (rest : List Char) :
    beginValue (t ++ rest) = .ok (.whole rest) := by
  simp only [List.mem_cons, List.not_mem_nil, or_false] at ht
  rcases ht with rfl | rfl | rfl <;> rfl

theorem beginValue_string {body : List Char} (hbody : StringSyntax body) (rest : List Char) :
    beginValue ('"' :: (body ++ ['"']) ++ rest) = .ok (.whole rest) := by
  have hskip := skipString_eq_ok_iff.2 ⟨body, hbody, (rfl : body ++ '"' :: rest = _)⟩
  have hstep : beginValue ('"' :: (body ++ '"' :: rest)) =
      (skipString (body ++ '"' :: rest)).map .whole := rfl
  rw [List.cons_append, List.append_assoc, List.singleton_append, hstep, map_whole_eq_iff, hskip]

/-- The first character of a number is no blank. -/
theorem isBlank_of_numberFirst {c : Char} (hc : c = '-' ∨ c.isDigit = true) :
    isBlank c = false := by
  rcases hc with rfl | hc
  · rfl
  · by_contra hblank
    simp only [isBlank, Bool.not_eq_false, Bool.or_eq_true, decide_eq_true_eq] at hblank
    rcases hblank with ((rfl | rfl) | rfl) | rfl <;> cases hc

theorem beginValue_number {t rest : List Char} (ht : NumberText t) (hrest : EndsNumber rest) :
    beginValue (t ++ rest) = .ok (.whole rest) := by
  have hskip := skipNumber_append ht hrest
  obtain ⟨c, t, rfl, hc⟩ := ht.exists_eq_cons
  have hstep : beginValue (c :: (t ++ rest)) = (skipNumber (c :: (t ++ rest))).map .whole := by
    unfold beginValue
    rw [skipBlanks_cons (isBlank_of_numberFirst hc)]
    split
    case h_8 hfirst =>
      cases hfirst
      rw [if_pos hc]
    all_goals simp_all
  rw [List.cons_append, hstep, map_whole_eq_iff]
  exact hskip

/-! ### What stands inside a bracket -/

theorem skipName_blanks_append {w : List Char} (hw : Blanks w) (cs : List Char) :
    skipName (w ++ cs) = skipName cs := by
  rw [skipName, skipBlanks_append hw, ← skipName]

theorem skipName_eq_ok_iff {cs rest : List Char} :
    skipName cs = .ok rest ↔ ∃ w body w', Blanks w ∧ StringSyntax body ∧ Blanks w' ∧
      cs = w ++ '"' :: (body ++ '"' :: (w' ++ ':' :: rest)) := by
  constructor
  · intro h
    unfold skipName at h
    split at h
    · cases h
    · rename_i hquote
      obtain ⟨-, w, hw, rfl⟩ := skipBlanks_eq_cons_iff.1 hquote
      split at h
      · cases h
      · rename_i hskip
        obtain ⟨body, hbody, rfl⟩ := skipString_eq_ok_iff.1 hskip
        split at h
        · cases h
        · rename_i hcolon
          obtain ⟨-, w', hw', rfl⟩ := skipBlanks_eq_cons_iff.1 hcolon
          cases h
          exact ⟨w, body, w', hw, hbody, hw', rfl⟩
        · cases h
    · cases h
  · rintro ⟨w, body, w', hw, hbody, hw', rfl⟩
    have hquote := skipBlanks_cons (c := '"') rfl (body ++ '"' :: (w' ++ ':' :: rest))
    have hskip := skipString_eq_ok_iff.2
      ⟨body, hbody, (rfl : _ = body ++ '"' :: (w' ++ ':' :: rest))⟩
    have hcolon := skipBlanks_eq_cons_iff.2 ⟨rfl, w', hw', (rfl : _ = w' ++ ':' :: rest)⟩
    rw [skipName_blanks_append hw]
    simp only [skipName, hquote, hskip, hcolon]

/-- Going to the value of an item skips what stands in front of it. -/
theorem enter_eq_ok_iff {b : Bracket} {cs rest : List Char} :
    enter b cs = .ok rest ↔ ∃ l, ItemLabel b l ∧ cs = l ++ rest := by
  constructor
  · intro h
    cases b with
    | array =>
      cases h
      exact ⟨[], .array, rfl⟩
    | object =>
      obtain ⟨w, body, w', hw, hbody, hw', rfl⟩ := skipName_eq_ok_iff.1 h
      exact ⟨_, .object hw hbody hw', by simp⟩
  · rintro ⟨l, hl, rfl⟩
    cases hl with
    | array => rfl
    | object hw hbody hw' => exact skipName_eq_ok_iff.2 ⟨_, _, _, hw, hbody, hw', by simp⟩

theorem isBlank_closing (b : Bracket) : isBlank b.closing = false := by
  cases b <;> rfl

theorem nextIn_eq_closed_iff {b : Bracket} {place : Between} {cs rest : List Char} :
    nextIn b place cs = .ok (.closed rest) ↔ ∃ w, Blanks w ∧ cs = w ++ b.closing :: rest := by
  constructor
  · intro h
    unfold nextIn at h
    split at h
    · cases h
    · rename_i hfirst
      obtain ⟨-, w, hw, rfl⟩ := skipBlanks_eq_cons_iff.1 hfirst
      split at h
      · rename_i hclosing
        cases h
        exact ⟨w, hw, by rw [hclosing]⟩
      · split at h
        · simp [map_eq_ok_iff] at h
        · split at h
          · simp [map_eq_ok_iff] at h
          · cases h
  · rintro ⟨w, hw, rfl⟩
    have hfirst := skipBlanks_eq_cons_iff.2 ⟨isBlank_closing b, w, hw, (rfl : _ = w ++ _ :: rest)⟩
    simp only [nextIn, hfirst, if_pos]

/-- What separates the next item from what stands in front of it. -/
def Between.comma : Between → List Char
  | opened => []
  | after => [',']

theorem exists_enter_of_nextIn {b : Bracket} {place : Between} {cs rest : List Char}
    (h : nextIn b place cs = .ok (.value rest)) :
    ∃ w s, Blanks w ∧ enter b s = .ok rest ∧ cs = w ++ (place.comma ++ s) := by
  unfold nextIn at h
  split at h
  · cases h
  · rename_i c r hfirst
    obtain ⟨-, w, hw, rfl⟩ := skipBlanks_eq_cons_iff.1 hfirst
    split at h
    · cases h
    · split at h
      · obtain ⟨v, henter, hv⟩ := map_eq_ok_iff.1 h
        cases hv
        exact ⟨w, c :: r, hw, henter, rfl⟩
      · split at h
        · rename_i hcomma
          obtain ⟨v, henter, hv⟩ := map_eq_ok_iff.1 h
          cases hv
          exact ⟨w, r, hw, henter, by rw [hcomma]; rfl⟩
        · cases h

/-! ### One value inside a bracket -/

theorem skipOpen_nil (place : Between) (cs : List Char) : skipOpen [] place cs = .ok cs := by
  unfold skipOpen
  rfl

theorem skipOpen_cons (b : Bracket) (outer : List Bracket) (place : Between) (cs : List Char) :
    skipOpen (b :: outer) place cs = nextIn b place cs >>= fun
      | .closed rest => skipOpen outer .after rest
      | .value value => beginValue value >>= fun
        | .whole rest => skipOpen (b :: outer) .after rest
        | .opened inner rest => skipOpen (inner :: b :: outer) .opened rest := by
  conv_lhs => rw [skipOpen]
  cases nextIn b place cs with
  | error fault => rfl
  | ok next =>
    cases next with
    | closed rest => rfl
    | value value =>
      simp only [bind, Except.bind]
      cases beginValue value with
      | error fault => rfl
      | ok begun => cases begun <;> rfl

/-- The brackets that are open are closed in two parts, first the inner ones and then the outer
ones. -/
theorem skipOpen_append (inner outer : List Bracket) {place : Between} {cs : List Char}
    (h : inner = [] → place = .after) :
    skipOpen (inner ++ outer) place cs = skipOpen inner place cs >>= skipOpen outer .after := by
  fun_induction skipOpen inner place cs with
  | case1 place cs =>
    rw [h rfl]
    rfl
  | case2 place cs b inner fault hnext =>
    rw [List.cons_append, skipOpen_cons, hnext]
    rfl
  | case3 place cs b inner rest hnext ih =>
    rw [← ih fun _ => rfl, List.cons_append, skipOpen_cons, hnext]
    rfl
  | case4 place cs b inner value hnext fault hbegin =>
    rw [List.cons_append, skipOpen_cons, hnext]
    simp only [bind, Except.bind, hbegin]
  | case5 place cs b inner value hnext rest hbegin ih =>
    rw [← ih fun _ => rfl, List.cons_append, skipOpen_cons, hnext]
    simp only [bind, Except.bind, hbegin]
  | case6 place cs b inner value hnext c rest hbegin ih =>
    rw [← ih fun h => absurd h (List.cons_ne_nil _ _), List.cons_append, skipOpen_cons, hnext]
    simp only [bind, Except.bind, hbegin]
    rfl

/-- **One value inside a bracket** is skipped as if it stood alone. -/
theorem skipOpen_singleton (b : Bracket) (place : Between) (cs : List Char) :
    skipOpen [b] place cs = nextIn b place cs >>= fun
      | .closed rest => .ok rest
      | .value value => skipValue value >>= skipOpen [b] .after := by
  rw [skipOpen_cons]
  congr
  funext next
  cases next with
  | closed rest => exact skipOpen_nil .after rest
  | value value =>
    simp only [skipValue]
    cases beginValue value with
    | error fault => rfl
    | ok begun =>
      cases begun with
      | whole rest => rfl
      | opened inner rest =>
        exact skipOpen_append [inner] [b] fun h => absurd h (List.cons_ne_nil _ _)

/-! ### What is skipped is a value -/

/-- What stands inside a bracket from a place on, up to the end of the bracket. -/
inductive GoesOn (b : Bracket) (place : Between) : List Char → Prop where
  /-- Nothing more. -/
  | close {w : List Char} : Blanks w → GoesOn b place (w ++ [b.closing])
  /-- Items. -/
  | items {w t : List Char} : Blanks w → Derives (.items b) t →
      GoesOn b place (w ++ (place.comma ++ (t ++ [b.closing])))

/-- A bracket and what stands inside it are a value. -/
theorem GoesOn.value {b : Bracket} {t : List Char} (h : GoesOn b .opened t) :
    Derives .value (b.opening :: t) := by
  cases h with
  | close hw => exact .empty hw
  | items hw ht =>
    have hfilled := Derives.filled (ht.items_blanks_append hw)
    rwa [List.append_assoc] at hfilled

/-- The value of an item, and what stands after it up to the end of the bracket. -/
theorem GoesOn.item {b : Bracket} {place : Between} {w l w' v t : List Char} (hw : Blanks w)
    (hl : ItemLabel b l) (hw' : Blanks w') (hv : Derives .value v) (ht : GoesOn b .after t) :
    GoesOn b place (w ++ (place.comma ++ (l ++ (w' ++ (v ++ t))))) := by
  cases ht with
  | close hblank =>
    have hgoes : GoesOn b place _ := .items hw (.last (.item hl hw' hv hblank))
    simpa only [List.append_assoc] using hgoes
  | items hblank hitems =>
    have hgoes : GoesOn b place _ := .items hw (.more (.item hl hw' hv hblank) hitems)
    simpa only [List.append_assoc, List.cons_append, Between.comma, List.nil_append] using hgoes

-- A bracket hands over the shorter text inside it. What stands inside hands over a value that may
-- be all of it, and then a shorter rest; so of two equal texts the value counts as the smaller one.
mutual

/-- **What is skipped is a value** of the grammar, with blanks in front. -/
theorem exists_value_of_skipValue {cs rest : List Char} (h : skipValue cs = .ok rest) :
    ∃ w v, Blanks w ∧ Derives .value v ∧ cs = w ++ (v ++ rest) := by
  unfold skipValue at h
  split at h
  · cases h
  · rename_i hbegin
    cases h
    exact exists_value_of_beginValue hbegin
  · rename_i b inner hbegin
    have hlt : inner.length < cs.length := length_beginValue_lt hbegin
    obtain ⟨w, hw, hcs⟩ := exists_blanks_of_beginValue hbegin
    obtain ⟨t, ht, hinner⟩ := exists_goesOn_of_skipOpen h
    exact ⟨w, _, hw, ht.value, by rw [hcs, hinner]; rfl⟩
termination_by 2 * cs.length
decreasing_by omega

/-- What is skipped inside a bracket are items up to the end of it. -/
theorem exists_goesOn_of_skipOpen {b : Bracket} {place : Between} {cs rest : List Char}
    (h : skipOpen [b] place cs = .ok rest) : ∃ t, GoesOn b place t ∧ cs = t ++ rest := by
  rw [skipOpen_singleton] at h
  obtain ⟨next, hnext, hrest⟩ := Text.bind_eq_ok_iff.1 h
  cases next with
  | closed r =>
    obtain ⟨w, hw, hcs⟩ := nextIn_eq_closed_iff.1 hnext
    cases hrest
    exact ⟨_, .close hw, by rw [hcs]; simp⟩
  | value value =>
    have hle : value.length ≤ cs.length := length_nextIn_le hnext
    obtain ⟨w, s, hw, henter, hcs⟩ := exists_enter_of_nextIn hnext
    obtain ⟨l, hl, hs⟩ := enter_eq_ok_iff.1 henter
    obtain ⟨mid, hvalue, hmid⟩ := Text.bind_eq_ok_iff.1 hrest
    have hlt : mid.length < value.length := length_skipValue_lt hvalue
    obtain ⟨w', v, hw', hv, hval⟩ := exists_value_of_skipValue hvalue
    obtain ⟨t, ht, hm⟩ := exists_goesOn_of_skipOpen hmid
    exact ⟨_, .item hw hl hw' hv ht, by rw [hcs, hs, hval, hm]; simp⟩
termination_by 2 * cs.length + 1
decreasing_by all_goals omega

end

/-! ### Each value is skipped -/

/-- Skips an item of a bracket, and what stands after it up to the end of the bracket. -/
def skipItem (b : Bracket) (cs : List Char) : Except Fault (List Char) := do
  let value ← enter b cs
  let rest ← skipValue value
  skipOpen [b] .after rest

theorem skipValue_blanks_append {w : List Char} (hw : Blanks w) (cs : List Char) :
    skipValue (w ++ cs) = skipValue cs := by
  rw [skipValue, beginValue_blanks_append hw, ← skipValue]

theorem skipItem_blanks_append {b : Bracket} {w : List Char} (hw : Blanks w) (cs : List Char) :
    skipItem b (w ++ cs) = skipItem b cs := by
  cases b with
  | array =>
    have hvalue := skipValue_blanks_append hw cs
    simp only [skipItem, enter, bind, Except.bind, hvalue]
  | object => simp only [skipItem, enter, skipName_blanks_append hw]

theorem skipOpen_closing {b : Bracket} {place : Between} {w : List Char} (hw : Blanks w)
    (rest : List Char) : skipOpen [b] place (w ++ b.closing :: rest) = .ok rest := by
  rw [skipOpen_singleton, nextIn_eq_closed_iff.2 ⟨w, hw, rfl⟩]
  rfl

theorem nextIn_blanks_append {b : Bracket} {place : Between} {w : List Char} (hw : Blanks w)
    (cs : List Char) : nextIn b place (w ++ cs) = nextIn b place cs := by
  simp only [nextIn, skipBlanks_append hw]

theorem skipOpen_blanks_append {b : Bracket} {place : Between} {w : List Char} (hw : Blanks w)
    (cs : List Char) : skipOpen [b] place (w ++ cs) = skipOpen [b] place cs := by
  rw [skipOpen_singleton, nextIn_blanks_append hw, ← skipOpen_singleton]

theorem skipOpen_comma (b : Bracket) (cs : List Char) :
    skipOpen [b] .after (',' :: cs) = skipItem b cs := by
  have hnext : nextIn b .after (',' :: cs) = (enter b cs).map .value := by
    cases b <;> rfl
  rw [skipOpen_singleton, hnext, skipItem]
  cases enter b cs <;> rfl

theorem skipOpen_opened {b : Bracket} {c : Char} (hblank : isBlank c = false)
    (hclosing : c ≠ b.closing) (cs : List Char) :
    skipOpen [b] .opened (c :: cs) = skipItem b (c :: cs) := by
  have hnext : nextIn b .opened (c :: cs) = (enter b (c :: cs)).map .value := by
    simp only [nextIn, skipBlanks_cons hblank, if_neg hclosing]
  rw [skipOpen_singleton, hnext, skipItem]
  cases enter b (c :: cs) <;> rfl

/-- A value begins with a character that is no blank and ends no bracket. -/
theorem Derives.value_exists_eq_cons {v : List Char} (h : Derives .value v) :
    ∃ c rest, v = c :: rest ∧ isBlank c = false ∧ ∀ b : Bracket, c ≠ b.closing := by
  cases h with
  | word ht =>
    simp only [List.mem_cons, List.not_mem_nil, or_false] at ht
    rcases ht with rfl | rfl | rfl <;>
      exact ⟨_, _, rfl, rfl, fun b => by cases b <;> decide⟩
  | number ht =>
    obtain ⟨c, t, rfl, hc⟩ := ht.exists_eq_cons
    refine ⟨c, t, rfl, isBlank_of_numberFirst hc, ?_⟩
    rintro b rfl
    cases b <;> simp [Bracket.closing] at hc
  | string _ => exact ⟨_, _, rfl, rfl, fun b => by cases b <;> decide⟩
  | @empty b' _ _ =>
    exact ⟨_, _, rfl, by cases b' <;> rfl, fun b => by cases b' <;> cases b <;> decide⟩
  | @filled b' _ _ =>
    exact ⟨_, _, rfl, by cases b' <;> rfl, fun b => by cases b' <;> cases b <;> decide⟩

/-- So does an item, but for the blanks in front. -/
theorem Derives.item_exists_eq_cons {b : Bracket} {i : List Char} (h : Derives (.item b) i) :
    ∃ w c rest, Blanks w ∧ i = w ++ c :: rest ∧ isBlank c = false ∧ c ≠ b.closing := by
  cases h with
  | @item _ l w v w' hl hw hv hw' =>
    cases hl with
    | array =>
      obtain ⟨c, rest, rfl, hblank, hclosing⟩ := hv.value_exists_eq_cons
      exact ⟨w, c, rest ++ w', hw, rfl, hblank, hclosing .array⟩
    | object hw₁ _ _ => exact ⟨_, '"', _, hw₁, by rw [List.append_assoc]; rfl, rfl, by decide⟩

theorem Derives.items_exists_eq_cons {b : Bracket} {t : List Char} (h : Derives (.items b) t) :
    ∃ w c rest, Blanks w ∧ t = w ++ c :: rest ∧ isBlank c = false ∧ c ≠ b.closing := by
  cases h with
  | last hi => exact hi.item_exists_eq_cons
  | @more _ i t hi ht =>
    obtain ⟨w, c, rest, hw, rfl, hc⟩ := hi.item_exists_eq_cons
    exact ⟨w, c, rest ++ ',' :: t, hw, by rw [List.append_assoc]; rfl, hc⟩

/-- What becomes of a text of the grammar that stands in front of another text. -/
def Skips : Symbol → List Char → Prop
  | .value, t => ∀ rest, Stops rest → skipValue (t ++ rest) = .ok rest
  | .item b, t => ∀ rest, Stops rest → skipItem b (t ++ rest) = skipOpen [b] .after rest
  | .items b, t => ∀ rest, skipItem b (t ++ b.closing :: rest) = .ok rest

theorem skipValue_of_beginValue {cs rest : List Char} (h : beginValue cs = .ok (.whole rest)) :
    skipValue cs = .ok rest := by
  simp only [skipValue, h]

theorem skipValue_opening (b : Bracket) (cs : List Char) :
    skipValue (b.opening :: cs) = skipOpen [b] .opened cs := by
  simp only [skipValue, beginValue_opening]

theorem Derives.skips {s : Symbol} {t : List Char} (h : Derives s t) : Skips s t := by
  induction h with
  | word ht => exact fun rest _ => skipValue_of_beginValue (beginValue_word ht rest)
  | number ht =>
    exact fun rest hrest => skipValue_of_beginValue (beginValue_number ht hrest.endsNumber)
  | string hbody => exact fun rest _ => skipValue_of_beginValue (beginValue_string hbody rest)
  | empty hw =>
    intro rest _
    rw [List.cons_append, List.append_assoc, skipValue_opening]
    exact skipOpen_closing hw rest
  | filled ht ih =>
    intro rest _
    obtain ⟨w, c, r, hw, rfl, hblank, hclosing⟩ := ht.items_exists_eq_cons
    have hitems := ih rest
    simp only [List.append_assoc, List.cons_append, skipItem_blanks_append hw] at hitems ⊢
    rw [skipValue_opening, skipOpen_blanks_append hw, skipOpen_opened hblank hclosing]
    exact hitems
  | @item b l w v w' hl hw hv hw' ih =>
    intro rest hrest
    -- the blanks after the value are left to whatever skips the comma or the end of the bracket
    have henter := enter_eq_ok_iff.2 ⟨l, hl, (rfl : _ = l ++ (w ++ (v ++ (w' ++ rest))))⟩
    have hvalue := ih _ (hrest.blanks_append hw')
    simp only [List.append_assoc, skipItem, henter, skipValue_blanks_append hw, hvalue, bind,
      Except.bind, skipOpen_blanks_append hw']
  | last hi ih =>
    intro rest
    rw [ih _ (stops_closing _ rest)]
    exact skipOpen_closing blanks_nil rest
  | more hi ht ihi iht =>
    intro rest
    rw [List.append_assoc, List.cons_append, ihi _ (stops_cons (.head _) _), skipOpen_comma]
    exact iht rest

/-- **Each value is skipped**, if what follows may follow a value. -/
theorem skipValue_append {w v rest : List Char} (hw : Blanks w) (hv : Derives .value v)
    (hrest : Stops rest) : skipValue (w ++ (v ++ rest)) = .ok rest := by
  rw [skipValue_blanks_append hw]
  exact hv.skips rest hrest

end JournalSite.Json
