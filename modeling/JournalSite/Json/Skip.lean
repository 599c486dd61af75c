import JournalSite.Json.NumberToken
import JournalSite.Json.StringToken

/-!
# Skipping JSON values

A value that nobody asked for is checked for its syntax and skipped. Values nest
to any depth, so the brackets that are open are kept in a list, innermost first,
and no call waits for another.
-/

namespace JournalSite.Json

/-- A bracket that is open. -/
inductive Bracket where
  /-- The bracket of an array. -/
  | array
  /-- The brace of an object. -/
  | object
  deriving DecidableEq, Repr

/-- The character that closes a bracket. -/
def Bracket.closing : Bracket → Char
  | array => ']'
  | object => '\x7d'

/-- Skips the name of a member and the colon after it, from before the name. -/
def skipName (cs : List Char) : Except Fault (List Char) :=
  match skipBlanks cs with
  | [] => .error .endsEarly
  | '"' :: rest =>
    match skipString rest with
    | .error fault => .error fault
    | .ok rest =>
      match skipBlanks rest with
      | [] => .error .endsEarly
      | ':' :: rest => .ok rest
      | _ :: _ => .error .badSyntax
  | _ :: _ => .error .badSyntax

/-- Goes to where the first or next value inside a bracket begins. -/
def enter : Bracket → List Char → Except Fault (List Char)
  | .array, cs => .ok cs
  | .object, cs => skipName cs

/-- What the beginning of a value comes to. -/
inductive Begun where
  /-- The value is over. -/
  | whole (rest : List Char)
  /-- The value is an array or object that has been opened. -/
  | opened (bracket : Bracket) (rest : List Char)

/-- The text after what has begun. -/
def Begun.rest : Begun → List Char
  | whole rest => rest
  | opened _ rest => rest

/-- Skips a value, or opens it if it is an array or object. -/
def beginValue (cs : List Char) : Except Fault Begun :=
  match skipBlanks cs with
  | [] => .error .endsEarly
  | 'n' :: rest => (readWord ['u', 'l', 'l'] rest).map .whole
  | 't' :: rest => (readWord ['r', 'u', 'e'] rest).map .whole
  | 'f' :: rest => (readWord ['a', 'l', 's', 'e'] rest).map .whole
  | '"' :: rest => (skipString rest).map .whole
  | '[' :: rest => .ok (.opened .array rest)
  | '\x7b' :: rest => .ok (.opened .object rest)
  | c :: rest =>
    if c = '-' ∨ c.isDigit then (skipNumber (c :: rest)).map .whole else .error .badSyntax

/-- Where skipping stands between two values. -/
inductive Between where
  /-- A bracket has just been opened, and may be closed at once. -/
  | opened
  /-- A value is over, and a comma or the closing bracket follows. -/
  | after
  deriving DecidableEq, Repr

/-- What follows between two values inside a bracket. -/
inductive Next where
  /-- Another value, which begins here. -/
  | value (rest : List Char)
  /-- The end of the bracket. -/
  | closed (rest : List Char)

/-- Finds out what follows inside a bracket. -/
def nextIn (bracket : Bracket) (place : Between) (cs : List Char) : Except Fault Next :=
  match skipBlanks cs with
  | [] => .error .endsEarly
  | c :: rest =>
    if c = bracket.closing then .ok (.closed rest)
    else
      match place with
      | .opened => (enter bracket (c :: rest)).map .value
      | .after => if c = ',' then (enter bracket rest).map .value else .error .badSyntax

/-! ### Each step leaves less to skip -/

theorem length_skipName_le {cs rest : List Char} (h : skipName cs = .ok rest) :
    rest.length ≤ cs.length := by
  have hb := length_skipBlanks_le cs
  unfold skipName at h
  split at h
  · cases h
  · next r hr =>
    rw [hr, List.length_cons] at hb
    split at h
    · cases h
    · next s hs =>
      have hlt := length_skipString_lt hs
      have hc := length_skipBlanks_le s
      split at h
      · cases h
      · next t ht =>
        cases h
        rw [ht, List.length_cons] at hc
        omega
      · cases h
  · cases h

theorem length_enter_le {bracket : Bracket} {cs rest : List Char}
    (h : enter bracket cs = .ok rest) : rest.length ≤ cs.length := by
  cases bracket with
  | array =>
    cases h
    exact Nat.le_refl _
  | object => exact length_skipName_le h

theorem length_beginValue_lt {cs : List Char} {begun : Begun} (h : beginValue cs = .ok begun) :
    begun.rest.length < cs.length := by
  have hb := length_skipBlanks_le cs
  have hmap : ∀ {r : List Char} {step : Except Fault (List Char)},
      step.map Begun.whole = .ok begun → (∀ t, step = .ok t → t.length < r.length + 1) →
        r.length + 1 ≤ cs.length → begun.rest.length < cs.length := by
    intro r step hs hlt hle
    cases step with
    | error e => cases hs
    | ok t =>
      cases hs
      exact Nat.lt_of_lt_of_le (hlt t rfl) hle
  unfold beginValue at h
  split at h
  · cases h
  · next hr =>
    rw [hr, List.length_cons] at hb
    exact hmap h (fun t ht => Nat.lt_succ_of_le (length_readWord_le ht)) hb
  · next hr =>
    rw [hr, List.length_cons] at hb
    exact hmap h (fun t ht => Nat.lt_succ_of_le (length_readWord_le ht)) hb
  · next hr =>
    rw [hr, List.length_cons] at hb
    exact hmap h (fun t ht => Nat.lt_succ_of_le (length_readWord_le ht)) hb
  · next hr =>
    rw [hr, List.length_cons] at hb
    exact hmap h (fun t ht => Nat.lt_succ_of_lt (length_skipString_lt ht)) hb
  · next hr =>
    rw [hr, List.length_cons] at hb
    cases h
    exact hb
  · next hr =>
    rw [hr, List.length_cons] at hb
    cases h
    exact hb
  · next hr =>
    rw [hr, List.length_cons] at hb
    split at h
    · exact hmap h (fun t ht => by simpa using length_skipNumber_lt ht) hb
    · cases h

/-- The text after what follows inside a bracket. -/
def Next.rest : Next → List Char
  | value rest => rest
  | closed rest => rest

theorem length_nextIn_le {bracket : Bracket} {place : Between} {cs : List Char} {next : Next}
    (h : nextIn bracket place cs = .ok next) : next.rest.length ≤ cs.length := by
  have hb := length_skipBlanks_le cs
  have hmap : ∀ {r : List Char}, (enter bracket r).map Next.value = .ok next →
      r.length ≤ cs.length → next.rest.length ≤ cs.length := by
    intro r hs hle
    cases he : enter bracket r with
    | error e => rw [he] at hs; cases hs
    | ok t =>
      rw [he] at hs
      cases hs
      exact Nat.le_trans (length_enter_le he) hle
  unfold nextIn at h
  split at h
  · cases h
  · next c r hr =>
    rw [hr, List.length_cons] at hb
    split at h
    · cases h
      exact Nat.le_of_succ_le hb
    · split at h
      · exact hmap h hb
      · split at h
        · exact hmap h (Nat.le_of_succ_le hb)
        · cases h

theorem length_nextIn_closed_lt {bracket : Bracket} {place : Between} {cs rest : List Char}
    (h : nextIn bracket place cs = .ok (.closed rest)) : rest.length < cs.length := by
  have hb := length_skipBlanks_le cs
  have hmap : ∀ {r : List Char}, (enter bracket r).map Next.value ≠ .ok (.closed rest) := by
    intro r hs
    cases he : enter bracket r with
    | error e => rw [he] at hs; cases hs
    | ok t => rw [he] at hs; cases hs
  unfold nextIn at h
  split at h
  · cases h
  · next c r hr =>
    rw [hr, List.length_cons] at hb
    split at h
    · cases h
      exact hb
    · split at h
      · exact absurd h hmap
      · split at h
        · exact absurd h hmap
        · cases h

/-! ### Skipping -/

/-- Skips to the end of the brackets that are open, innermost first. -/
def skipOpen (brackets : List Bracket) (place : Between) (cs : List Char) :
    Except Fault (List Char) :=
  match brackets with
  | [] => .ok cs
  | bracket :: outer =>
    match _hn : nextIn bracket place cs with
    | .error fault => .error fault
    | .ok (.closed rest) => skipOpen outer .after rest
    | .ok (.value value) =>
      match _hv : beginValue value with
      | .error fault => .error fault
      | .ok (.whole rest) => skipOpen (bracket :: outer) .after rest
      | .ok (.opened inner rest) => skipOpen (inner :: bracket :: outer) .opened rest
termination_by cs.length
decreasing_by
  · exact length_nextIn_closed_lt _hn
  · exact Nat.lt_of_lt_of_le (length_beginValue_lt _hv) (length_nextIn_le _hn)
  · exact Nat.lt_of_lt_of_le (length_beginValue_lt _hv) (length_nextIn_le _hn)

/-- Skips a value. -/
def skipValue (cs : List Char) : Except Fault (List Char) :=
  match beginValue cs with
  | .error fault => .error fault
  | .ok (.whole rest) => .ok rest
  | .ok (.opened bracket rest) => skipOpen [bracket] .opened rest

theorem length_skipOpen_le {brackets : List Bracket} {place : Between} {cs rest : List Char}
    (h : skipOpen brackets place cs = .ok rest) : rest.length ≤ cs.length := by
  fun_induction skipOpen brackets place cs with
  | case1 =>
    cases h
    exact Nat.le_refl _
  | case2 => cases h
  | case3 _ _ _ _ _ hn ih => exact Nat.le_trans (ih h) (Nat.le_of_lt (length_nextIn_closed_lt hn))
  | case4 => cases h
  | case5 _ _ _ _ _ hn _ hv ih =>
    exact Nat.le_trans (ih h) (Nat.le_trans (Nat.le_of_lt (length_beginValue_lt hv))
      (length_nextIn_le hn))
  | case6 _ _ _ _ _ hn _ _ hv ih =>
    exact Nat.le_trans (ih h) (Nat.le_trans (Nat.le_of_lt (length_beginValue_lt hv))
      (length_nextIn_le hn))

theorem length_skipValue_lt {cs rest : List Char} (h : skipValue cs = .ok rest) :
    rest.length < cs.length := by
  unfold skipValue at h
  split at h
  · cases h
  · next hb =>
    cases h
    exact length_beginValue_lt hb
  · next hb => exact Nat.lt_of_le_of_lt (length_skipOpen_le h) (length_beginValue_lt hb)

end JournalSite.Json
