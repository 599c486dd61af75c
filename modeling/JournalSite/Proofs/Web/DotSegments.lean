import JournalSite.Web.UrlPath
import Mathlib

/-!
# Dot segments on a stack

The pieces of a path are put on a stack one after the other. A piece of one dot is
left out, a piece of two dots takes the last piece off the stack, and any other piece
goes on top as it is. A dot may be spelled as the percent code `%2e`. If the path ends
in a piece of dots, there is a slash at its end.

Whether some pieces stay on the stack whatever follows is left open (`stays`). In
addresses those are the names of disks, such as `C:`, and nothing else
(`namesDisk`): **`joined_resolve_splitOnP`**. The reader of addresses knows disks by how a text
begins (`isDisk`), which for pieces between slashes comes to the same.
-/

namespace JournalSite.UrlPath

/-- The ways to spell a dot. -/
def dotSpellings : List (List Char) := [".".toList, "%2e".toList, "%2E".toList]

/-- A piece of one dot. -/
def IsHere (piece : List Char) : Prop := piece ∈ dotSpellings

/-- A piece of two dots, each in a spelling of its own. -/
def IsUp (piece : List Char) : Prop :=
  ∃ first ∈ dotSpellings, ∃ second ∈ dotSpellings, piece = first ++ second

instance : DecidablePred IsHere := fun _ => inferInstanceAs (Decidable (_ ∈ _))

instance : DecidablePred IsUp := fun _ => inferInstanceAs (Decidable (∃ _ ∈ _, ∃ _ ∈ _, _))

/-- Whether a piece is the name of a disk: a letter, then a colon or a bar, and nothing more. -/
def namesDisk : List Char → Bool
  | [letter, mark] => letter.isAlpha && (mark == ':' || mark == '|')
  | _ => false

section

variable (stays : List Char → Bool)

/-- The stack without its last piece, unless that stays. -/
def popped (stack : List (List Char)) : List (List Char) :=
  if stack.getLast?.any stays then stack else stack.dropLast

/-- The stack after one more piece. -/
def put (stack : List (List Char)) (piece : List Char) : List (List Char) :=
  if IsUp piece then popped stays stack
  else if IsHere piece then stack
  else stack ++ [piece]

/-- The empty piece that stands for the slash at the end of a path that ends in dots. -/
def ending (pieces : List (List Char)) : List (List Char) :=
  if ∃ last ∈ pieces.getLast?, IsHere last ∨ IsUp last then [[]] else []

/-- The path that is left when the dots among its pieces are resolved. -/
def resolvedPath (pieces : List (List Char)) : List Char :=
  joined (pieces.foldl (put stays) [] ++ ending pieces)

end

/-! ### The spellings of dots -/

theorem withDots_eq_nil_iff {piece : List Char} : withDots piece = [] ↔ piece = [] := by
  fun_cases withDots piece <;> simp

theorem withDots_dot_append {dot : List Char} (h : dot ∈ dotSpellings) (rest : List Char) :
    withDots (dot ++ rest) = '.' :: withDots rest := by
  simp only [dotSpellings, List.mem_cons, List.not_mem_nil, or_false] at h
  rcases h with rfl | rfl | rfl
  · exact withDots.eq_3 _ _ (fun _ h _ => nomatch h) (fun _ h _ => nomatch h)
  · rfl
  · rfl

/-- A text that begins with a dot, once its codes are replaced, begins with a spelling of one. -/
theorem withDots_eq_dot_cons_iff {piece dots : List Char} :
    withDots piece = '.' :: dots ↔
      ∃ dot ∈ dotSpellings, ∃ rest, piece = dot ++ rest ∧ withDots rest = dots := by
  constructor
  · fun_cases withDots piece with
    | case1 rest => exact fun h => ⟨"%2e".toList, by decide, rest, rfl, (List.cons.inj h).2⟩
    | case2 rest => exact fun h => ⟨"%2E".toList, by decide, rest, rfl, (List.cons.inj h).2⟩
    | case3 c rest =>
      intro h
      obtain ⟨rfl, hrest⟩ := List.cons.inj h
      exact ⟨".".toList, by decide, rest, rfl, hrest⟩
    | case4 => exact fun h => nomatch h
  · rintro ⟨dot, hdot, rest, rfl, rfl⟩
    exact withDots_dot_append hdot rest

theorem isHere_iff {piece : List Char} : isHere piece = true ↔ IsHere piece := by
  rw [isHere, beq_iff_eq, withDots_eq_dot_cons_iff, IsHere]
  constructor
  · rintro ⟨dot, hdot, rest, rfl, hrest⟩
    rwa [withDots_eq_nil_iff.1 hrest, List.append_nil]
  · exact fun h => ⟨piece, h, [], (List.append_nil _).symm, rfl⟩

theorem isUp_iff {piece : List Char} : isUp piece = true ↔ IsUp piece := by
  rw [isUp, beq_iff_eq, withDots_eq_dot_cons_iff, IsUp]
  constructor
  · rintro ⟨first, hfirst, rest, rfl, hrest⟩
    exact ⟨first, hfirst, rest, isHere_iff.1 (beq_iff_eq.2 hrest), rfl⟩
  · rintro ⟨first, hfirst, second, hsecond, rfl⟩
    exact ⟨first, hfirst, second, rfl, beq_iff_eq.1 (isHere_iff.2 hsecond)⟩

/-! ### The stack -/

theorem resolve_singleton (stack : List (List Char)) (piece : List Char) :
    resolve stack [piece] = put isDisk stack piece ++ ending [piece] := by
  simp only [resolve, isUp_iff, isHere_iff, put, ending, List.getLast?_singleton,
    Option.mem_some_iff, exists_eq_left']
  by_cases hup : IsUp piece
  · simp only [hup, if_true, or_true]
    rfl
  · by_cases hhere : IsHere piece
    · simp only [hup, hhere, if_true, if_false, true_or]
    · simp only [hup, hhere, if_false, or_false, List.append_nil]

theorem resolve_cons_cons (stack : List (List Char)) (piece next : List Char)
    (rest : List (List Char)) :
    resolve stack (piece :: next :: rest) = resolve (put isDisk stack piece) (next :: rest) := by
  rw [resolve, put]
  simp only [isUp_iff, isHere_iff]
  split_ifs
  · rfl
  · rfl
  · rfl
  all_goals exact fun h => nomatch h

/-- The resolver puts the pieces on its stack one after the other. -/
theorem resolve_eq_foldl {pieces : List (List Char)} (hne : pieces ≠ [])
    (stack : List (List Char)) :
    resolve stack pieces = pieces.foldl (put isDisk) stack ++ ending pieces := by
  induction pieces generalizing stack with
  | nil => exact absurd rfl hne
  | cons piece rest ih =>
    cases rest with
    | nil => exact resolve_singleton stack piece
    | cons next rest =>
      have hending : ending (piece :: next :: rest) = ending (next :: rest) := by
        rw [ending, ending, List.getLast?_cons_cons]
      rw [resolve_cons_cons, ih (List.cons_ne_nil _ _), hending]
      rfl

/-! ### Disks -/

/-- A piece without a backslash names a disk if it begins like one. -/
theorem isDisk_eq_namesDisk {piece : List Char} (h : '\\' ∉ piece) :
    isDisk piece = namesDisk piece := by
  match piece with
  | [] => rfl
  | [_] => rfl
  | [letter, mark] => simp [isDisk, namesDisk]
  | letter :: mark :: c :: rest =>
    have hc : c ≠ '\\' := by
      rintro rfl
      simp at h
    simp [isDisk, namesDisk, hc]

theorem mem_put {stays : List Char → Bool} {stack : List (List Char)} {piece p : List Char}
    (h : p ∈ put stays stack piece) : p ∈ stack ∨ p = piece := by
  rw [put, popped] at h
  split_ifs at h
  · exact .inl h
  · exact .inl (List.mem_of_mem_dropLast h)
  · exact .inl h
  · simpa using h

theorem put_congr {stays stays' : List Char → Bool} {stack : List (List Char)}
    (h : ∀ p ∈ stack, stays p = stays' p) (piece : List Char) :
    put stays stack piece = put stays' stack piece := by
  have hlast : stack.getLast?.any stays = stack.getLast?.any stays' := by
    cases hlast : stack.getLast? with
    | none => rfl
    | some last => exact h last (List.mem_of_getLast? hlast)
  simp only [put, popped, hlast]

/-- Only the pieces themselves are looked at to see what stays. -/
theorem foldl_put_congr {stays stays' : List Char → Bool} {pieces stack : List (List Char)}
    (hstack : ∀ p ∈ stack, stays p = stays' p) (h : ∀ p ∈ pieces, stays p = stays' p) :
    pieces.foldl (put stays) stack = pieces.foldl (put stays') stack := by
  induction pieces generalizing stack with
  | nil => rfl
  | cons piece rest ih =>
    rw [List.foldl_cons, List.foldl_cons, put_congr hstack piece]
    refine ih (fun p hp => ?_) fun p hp => h p (List.mem_cons_of_mem _ hp)
    rcases mem_put hp with hp | rfl
    · exact hstack p hp
    · exact h p List.mem_cons_self

/-! ### Paths -/

/-- A text is split character by character: if the piece at hand holds no character to split at,
no piece will. -/
theorem forall_mem_splitOnPPrepend {α : Type} {p : α → Bool} (xs acc : List α)
    (hacc : ∀ x ∈ acc, p x = false) :
    ∀ piece ∈ xs.splitOnPPrepend p acc, ∀ x ∈ piece, p x = false := by
  fun_induction List.splitOnPPrepend p xs acc with
  | case1 acc => simpa using hacc
  | case2 acc x rest hx ih =>
    rw [List.forall_mem_cons]
    exact ⟨by simpa using hacc, ih (by simp)⟩
  | case3 acc x rest hx ih => exact ih (List.forall_mem_cons.2 ⟨by simpa using hx, hacc⟩)

/-- The pieces between slashes hold no backslash. -/
theorem backslash_not_mem_of_mem_splitOnP {cs piece : List Char}
    (h : piece ∈ cs.splitOnP isSlash) : '\\' ∉ piece := by
  intro hbackslash
  have hpieces := forall_mem_splitOnPPrepend (p := isSlash) cs [] (by simp)
  exact absurd (hpieces piece h _ hbackslash) (by decide)

/-- **The resolver of addresses**: the pieces between slashes go on a stack one after the other,
where the names of disks stay. -/
theorem joined_resolve_splitOnP (cs : List Char) :
    joined (resolve [] (cs.splitOnP isSlash)) =
      resolvedPath namesDisk (cs.splitOnP isSlash) := by
  rw [resolve_eq_foldl (List.splitOnP_ne_nil _ _), resolvedPath]
  congr 2
  refine foldl_put_congr (fun _ h => absurd h List.not_mem_nil) fun piece hpiece => ?_
  exact isDisk_eq_namesDisk (backslash_not_mem_of_mem_splitOnP hpiece)

example : resolvedPath namesDisk ["a".toList, ".".toList, "b".toList, "%2e.".toList] =
    "/a/".toList := by decide

/-- A resolved path begins with a slash. -/
theorem exists_resolvedPath_eq_cons (stays : List Char → Bool) {pieces : List (List Char)}
    (hne : pieces ≠ []) : ∃ rest, resolvedPath stays pieces = '/' :: rest := by
  have hstack : pieces.foldl (put stays) [] ++ ending pieces ≠ [] := by
    obtain ⟨init, last, rfl⟩ := List.eq_nil_or_concat' pieces |>.resolve_left hne
    rw [List.foldl_concat, ending, List.getLast?_concat]
    simp only [Option.mem_some_iff, exists_eq_left']
    split_ifs with hdots
    · simp
    · rw [not_or] at hdots
      simp [put, hdots.1, hdots.2]
  obtain ⟨first, rest, hcons⟩ := List.exists_cons_of_ne_nil hstack
  exact ⟨_, by rw [resolvedPath, hcons, joined, List.flatMap_cons, List.cons_append]⟩

end JournalSite.UrlPath
