import JournalSite.Proofs.Persona.SelectorMarkup
import JournalSite.Proofs.Web.DotSegments
import JournalSite.Web.Screen

/-!
# Which page a path leads to

The server answers an address with one of three pages, and which one it is depends on
the path that is left when the dots in it are resolved: `/journal`, with or without a
slash at its end, is the journal, `/` the page that leads on to today, and anything
else is not found (**`served_path`**). Two dots take the piece before them off the
path, unless that is the name of a disk.

A query or a fragment behind the path changes nothing, whatever is written in it. In
particular the server never learns which day the fragment names, so the journal page
that it sends waits: it shows the status of a page that is loading, and the one entry
on it is empty and marked busy (`journalPage_waits`).
-/

namespace JournalSite

open Text Markup UrlPath

/-- What the server sends for an address. -/
def served (address : String) : Option String :=
  (Screen.atAddress? address).map fun s => s.markup.render

/-! ### Paths and what follows them -/

/-- The pieces of a path: what stands between its slashes, behind the first. -/
def pathPieces (path : List Char) : List (List Char) := (path.drop 1).splitOnP isSlash

/-- **Paths** that begin with one slash and go on in characters above the space, neither a query nor
a fragment, where two slashes stand side by side nowhere. -/
structure IsPath (path : List Char) : Prop where
  /-- The path begins with a slash. -/
  fromRoot : path.head? = some '/'
  /-- Neither the space nor a character below it is in the path, and no query or fragment begins. -/
  plain : ∀ c ∈ path, 0x20 < c.toNat ∧ c ≠ '?' ∧ c ≠ '#'
  /-- No piece is empty, except for the last. -/
  filled : ∀ piece ∈ (pathPieces path).dropLast, piece ≠ []

/-- A text that may follow a path: it begins a query or a fragment, if it is not empty. -/
def IsTail (tail : List Char) : Prop := ∀ c ∈ tail.head?, endsPath c = true

theorem isTail_nil : IsTail [] := fun _ h => nomatch h

theorem isTail_cons {mark : Char} (h : endsPath mark = true) (rest : List Char) :
    IsTail (mark :: rest) := by
  rintro c ⟨⟩
  exact h

/-- The part of a tail that is left when characters are taken off its end is a tail. -/
theorem IsTail.of_prefix {tail tail' : List Char} (h : IsTail tail) (hinitial : tail' <+: tail) :
    IsTail tail' := by
  intro c hc
  obtain ⟨rest, rfl⟩ := hinitial
  exact h c (by simp [Option.mem_def.1 hc])

theorem endsPath_eq_true_iff {c : Char} : endsPath c = true ↔ c = '?' ∨ c = '#' := by
  simp [endsPath]

/-- A mark does not count as a line break, so a tail without its line breaks is a tail. -/
theorem IsTail.filter_not_isBreak {tail : List Char} (h : IsTail tail) :
    IsTail (tail.filter (! isBreak ·)) := by
  cases tail with
  | nil => exact isTail_nil
  | cons c rest =>
    have hc : endsPath c = true := h c rfl
    have hbreak : isBreak c = false := by
      rcases endsPath_eq_true_iff.1 hc with rfl | rfl
      · decide
      · decide
    rw [List.filter_cons_of_pos (by simp [hbreak])]
    exact isTail_cons hc _

theorem takeWhile_eq_nil_of_head? {α : Type} {p : α → Bool} {xs : List α}
    (h : ∀ x ∈ xs.head?, p x = false) : xs.takeWhile p = [] := by
  cases xs with
  | nil => rfl
  | cons x xs => exact List.takeWhile_cons_of_neg (by simp [h x rfl])

/-- Characters at the end of a text are dropped from its last part alone, if they are none of those
before it. -/
theorem rdropWhile_append {α : Type} {p : α → Bool} {xs : List α} (hxs : ∀ x ∈ xs, p x = false)
    (ys : List α) : (xs ++ ys).rdropWhile p = xs ++ ys.rdropWhile p := by
  have hkept : xs.rdropWhile p = xs :=
    List.rdropWhile_eq_self_iff.2 fun hne => by simp [hxs _ (List.getLast_mem hne)]
  induction ys using List.reverseRecOn with
  | nil => rw [List.append_nil, List.rdropWhile_nil, List.append_nil, hkept]
  | append_singleton ys y ih =>
    rw [← List.append_assoc]
    by_cases hy : p y = true
    · rw [List.rdropWhile_concat_pos _ _ _ hy, List.rdropWhile_concat_pos _ _ _ hy, ih]
    · rw [List.rdropWhile_concat_neg _ _ _ hy, List.rdropWhile_concat_neg _ _ _ hy,
        List.append_assoc]

namespace IsPath

variable {path : List Char} (h : IsPath path)

include h

theorem isMargin_eq_false : ∀ c ∈ path, isMargin c = false := by
  intro c hc
  have hvisible := (h.plain c hc).1
  simp only [isMargin, decide_eq_false_iff_not]
  omega

theorem isBreak_eq_false : ∀ c ∈ path, isBreak c = false := by
  intro c hc
  have hvisible := (h.plain c hc).1
  simp only [isBreak, Bool.or_eq_false_iff, beq_eq_false_iff_ne]
  refine ⟨⟨?_, ?_⟩, ?_⟩
  all_goals
    rintro rfl
    exact absurd hvisible (by decide)

theorem endsPath_eq_false : ∀ c ∈ path, endsPath c = false := by
  intro c hc
  simp [endsPath, (h.plain c hc).2]

theorem exists_eq_cons : ∃ rest, path = '/' :: rest := by
  cases path with
  | nil => exact nomatch h.fromRoot
  | cons c rest =>
    cases h.fromRoot
    exact ⟨rest, rfl⟩

/-- All of a path counts, and what follows it begins with the same mark as before. -/
theorem exists_spoken_append {tail : List Char} (htail : IsTail tail) :
    ∃ tail', IsTail tail' ∧ spoken (path ++ tail) = path ++ tail' := by
  refine ⟨(tail.rdropWhile isMargin).filter (! isBreak ·),
    (htail.of_prefix (List.rdropWhile_prefix _ _)).filter_not_isBreak, ?_⟩
  have hstart : (path ++ tail).dropWhile isMargin = path ++ tail := by
    obtain ⟨rest, rfl⟩ := h.exists_eq_cons
    exact List.dropWhile_cons_of_neg (by decide)
  have hkept : path.filter (! isBreak ·) = path :=
    List.filter_eq_self.2 fun c hc => by simp [h.isBreak_eq_false c hc]
  rw [spoken, hstart, ← List.rdropWhile, rdropWhile_append h.isMargin_eq_false, List.filter_append,
    hkept]

/-- There is one slash at the beginning of a path. -/
theorem isSlash_head_eq_false {rest : List Char} (hpath : path = '/' :: rest) :
    ∀ c ∈ rest.head?, isSlash c = false := by
  subst hpath
  intro c hc
  cases rest with
  | nil => cases hc
  | cons d rest =>
    cases hc
    by_contra hslash
    rw [Bool.not_eq_false] at hslash
    refine h.filled [] ?_ rfl
    rw [pathPieces, List.drop_one, List.tail_cons, List.splitOnP_cons_eq_if_modifyHead,
      if_pos hslash, List.dropLast_cons_of_ne_nil (List.splitOnP_ne_nil _ _)]
    exact List.mem_cons_self

/-- One slash begins an address that begins with a path, and no more. -/
theorem length_takeWhile_isSlash {tail : List Char} (htail : IsTail tail) :
    ((path ++ tail).takeWhile isSlash).length = 1 := by
  obtain ⟨rest, hpath⟩ := h.exists_eq_cons
  -- The character behind the first slash belongs to the path or begins the tail.
  have hnext : ∀ c ∈ (rest ++ tail).head?, isSlash c = false := by
    intro c hc
    cases rest with
    | nil =>
      rcases endsPath_eq_true_iff.1 (htail c hc) with rfl | rfl
      · decide
      · decide
    | cons d rest => exact h.isSlash_head_eq_false hpath c hc
  rw [hpath, List.cons_append, List.takeWhile_cons_of_pos (by decide),
    takeWhile_eq_nil_of_head? hnext]
  rfl

theorem beforeQuery_drop_append {tail : List Char} (htail : IsTail tail) :
    beforeQuery ((path ++ tail).drop 1) = path.drop 1 := by
  obtain ⟨rest, hpath⟩ := h.exists_eq_cons
  have hrest : ∀ c ∈ rest, (! endsPath c) = true := fun c hc => by
    simp [h.endsPath_eq_false c (by simp [hpath, hc])]
  have hend : tail.takeWhile (! endsPath ·) = [] :=
    takeWhile_eq_nil_of_head? fun c hc => by simp [htail c hc]
  rw [hpath, List.cons_append, List.drop_one, List.tail_cons, List.drop_one, List.tail_cons,
    beforeQuery, List.takeWhile_append_of_pos hrest, hend, List.append_nil]

/-- **The path of an address** is the path it is written with, its dots resolved. What follows the
path does not matter. -/
theorem ofAddress?_append {tail : List Char} (htail : IsTail tail) :
    ofAddress? (path ++ tail) = some (resolvedPath namesDisk (pathPieces path)) := by
  obtain ⟨tail', htail', hspoken⟩ := h.exists_spoken_append htail
  have hscheme : scheme? (path ++ tail') = none := by
    obtain ⟨rest, rfl⟩ := h.exists_eq_cons
    rfl
  simp only [ofAddress?, hspoken, hscheme, relative?, h.length_takeWhile_isSlash htail']
  rw [rooted, h.beforeQuery_drop_append htail', joined_resolve_splitOnP, pathPieces]

end IsPath

/-! ### Pages -/

/-- The three pages begin differently. -/
theorem render_markup_inj {s s' : Screen} : s.markup.render = s'.markup.render ↔ s = s' := by
  refine ⟨fun h => ?_, congrArg fun s : Screen => s.markup.render⟩
  have hbegin : s.markup.chars.take 2 = s'.markup.chars.take 2 := by
    rw [Markup.render, Markup.render, String.ofList_inj] at h
    rw [h]
  have hjournal : Screen.journal.markup.chars.take 2 = ['<', 'd'] := rfl
  have hhome : Screen.home.markup.chars.take 2 = ['<', '!'] := rfl
  have hnotFound : Screen.notFound.markup.chars.take 2 = ['P', 'a'] := rfl
  cases s <;> cases s' <;>
    first | rfl | simp [hjournal, hhome, hnotFound] at hbegin

section

variable {path : List Char} (hpath : ∃ rest, path = '/' :: rest)

include hpath

/-- The screen at a path that begins with a slash. -/
theorem atPath_eq :
    Screen.atPath path =
      if path = "/".toList then .home
      else if path = "/journal".toList ∨ path = "/journal/".toList then .journal
      else .notFound := by
  obtain ⟨rest, rfl⟩ := hpath
  have hbelow : ("/".toList.isPrefixOf? ('/' :: rest)).getD ('/' :: rest) = rest := rfl
  have hcons (text : List Char) : rest = text ↔ '/' :: rest = '/' :: text := by simp
  rw [Screen.atPath, hbelow]
  exact if_congr (hcons []) rfl
    (if_congr (or_congr (hcons "journal".toList) (hcons "journal/".toList)) rfl rfl)

theorem atPath_eq_home_iff : Screen.atPath path = .home ↔ path = "/".toList := by
  rw [atPath_eq hpath]
  split_ifs with hhome hjournal
  · exact iff_of_true rfl hhome
  · exact iff_of_false nofun hhome
  · exact iff_of_false nofun hhome

theorem atPath_eq_journal_iff :
    Screen.atPath path = .journal ↔ path = "/journal".toList ∨ path = "/journal/".toList := by
  rw [atPath_eq hpath]
  split_ifs with hhome hjournal
  · exact iff_of_false nofun (by rw [hhome]; decide)
  · exact iff_of_true rfl hjournal
  · exact iff_of_false nofun hjournal

theorem atPath_eq_notFound_iff :
    Screen.atPath path = .notFound ↔
      path ≠ "/journal".toList ∧ path ≠ "/journal/".toList ∧ path ≠ "/".toList := by
  rw [atPath_eq hpath, ← and_assoc, ← not_or]
  split_ifs with hhome hjournal
  · exact iff_of_false nofun fun h => h.2 hhome
  · exact iff_of_false nofun fun h => h.1 hjournal
  · exact iff_of_true rfl ⟨hjournal, hhome⟩

end

/-- The page that is sent for a path, whatever follows it. -/
theorem served_append {path tail : String} (hpath : IsPath path.toList)
    (htail : IsTail tail.toList) :
    served (path ++ tail) =
      some (Screen.atPath (resolvedPath namesDisk (pathPieces path.toList))).markup.render := by
  rw [served, Screen.atAddress?, String.toList_append, hpath.ofAddress?_append htail]
  rfl

/-- The entry of a page that waits: it is busy, and there is nothing in it. -/
def waitingEntry : Element :=
  ⟨"article aria-busy=\"true\" class=\"journal-entry journal-entry--pending\"".toList, []⟩

/-- What a reader sees of the journal page that waits: the text of its one head is the label of the
status `loading`, and its one entry is that of a page that waits. -/
structure SeesWaiting (ps : List Piece) : Prop where
  /-- The status is `loading`. -/
  status : (elementsNamed "header" ps).map Element.text = [statusLabel "loading"]
  /-- The entry waits. -/
  entry : elementsNamed "article" ps = [waitingEntry]

/-- The journal page that the server sends waits for the fragment. -/
theorem journalPage_waits :
    ∃ ps, IsCut (journalPage .initial).render ps ∧ SeesWaiting ps := by
  have hclean := isClean_journalPage .initial
  refine ⟨_, isCut_render hclean, ?_, ?_⟩
  · rw [elementsNamed_pieces rfl hclean rfl]
    rfl
  · rw [elementsNamed_pieces rfl hclean rfl]
    rfl

/-- **Which page a path leads to.** The server sends the journal with the built-in companions exactly
if the path with its dots resolved is `/journal` or `/journal/`, the place holder of the page that
leads on exactly if it is `/`, and else a note that there is no such page. It sends the same if a
query or a fragment follows or both, and the journal page waits. -/
theorem served_path (path : String) (hpath : IsPath path.toList) :
    let resolved := resolvedPath namesDisk (pathPieces path.toList)
    (served path = some (journalPage .initial).render ↔
      resolved = "/journal".toList ∨ resolved = "/journal/".toList) ∧
    (served path = some "<!><!--<() />-->" ↔ resolved = "/".toList) ∧
    (served path = some "Page not found." ↔
      resolved ≠ "/journal".toList ∧ resolved ≠ "/journal/".toList ∧ resolved ≠ "/".toList) ∧
    (∀ query fragment : String,
      served (path ++ "?" ++ query) = served path ∧
      served (path ++ "#" ++ fragment) = served path ∧
      served (path ++ "?" ++ query ++ "#" ++ fragment) = served path) ∧
    ∃ ps, IsCut (journalPage .initial).render ps ∧ SeesWaiting ps := by
  intro resolved
  have hslash : ∃ rest, resolved = '/' :: rest :=
    exists_resolvedPath_eq_cons namesDisk (List.splitOnP_ne_nil _ _)
  have hserved : served path = some (Screen.atPath resolved).markup.render := by
    have happend : served (path ++ "") = _ := served_append hpath isTail_nil
    rwa [String.append_empty] at happend
  have hsame (mark : Char) (hmark : endsPath mark = true) (rest : String) :
      served (path ++ (String.ofList [mark] ++ rest)) = served path := by
    rw [hserved]
    refine served_append hpath ?_
    rw [String.toList_append, String.toList_ofList]
    exact isTail_cons hmark _
  have hpage (s : Screen) : served path = some s.markup.render ↔ Screen.atPath resolved = s := by
    rw [hserved, Option.some_inj, render_markup_inj]
  refine ⟨(hpage .journal).trans (atPath_eq_journal_iff hslash),
    (hpage .home).trans (atPath_eq_home_iff hslash),
    (hpage .notFound).trans (atPath_eq_notFound_iff hslash), fun query fragment => ?_,
    journalPage_waits⟩
  simp only [String.append_assoc]
  exact ⟨hsame '?' rfl query, hsame '#' rfl fragment, hsame '?' rfl (query ++ ("#" ++ fragment))⟩

/-- Up from `a` and down to the journal. -/
theorem served_path_up_and_down :
    IsPath "/a/%2e%2E/journal/".toList ∧
      served "/a/%2e%2E/journal/" = some (journalPage .initial).render := by
  have hpath : IsPath "/a/%2e%2E/journal/".toList := ⟨rfl, by simp, by decide⟩
  exact ⟨hpath, (served_path _ hpath).1.2 (.inr (by decide))⟩

/-- The name of a disk is no piece that two dots take off the stack: if it were, the path would lead
to the journal. -/
theorem served_above_disk :
    IsPath "/C:/../journal".toList ∧
      resolvedPath (fun _ => false) (pathPieces "/C:/../journal".toList) = "/journal".toList ∧
      served "/C:/../journal" ≠ some (journalPage .initial).render := by
  have hscreen : Screen.atAddress? "/C:/../journal" = some .notFound := by decide
  refine ⟨⟨rfl, by simp, by decide⟩, by decide, ?_⟩
  rw [served, hscreen, Option.map_some, Ne, Option.some_inj]
  intro h
  have hsame : Screen.notFound = Screen.journal := render_markup_inj.1 h
  cases hsame

end JournalSite
