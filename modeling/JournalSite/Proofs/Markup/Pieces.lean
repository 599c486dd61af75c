import JournalSite.Markup
import JournalSite.Proofs.Text.Leading

/-!
# Written pages in pieces

A written page is cut into pieces: its tags, and the characters outside of all
tags (`IsCut`). A page has one cut at most (`IsCut.unique`), and none if an angle
bracket stands outside of its tags. What a reader finds in a page is said of the
cut alone:

* the tags, in order (`tags`);
* the elements with a given name, each from its opening tag to the next closing
  tag of that name (`elementsNamed`), with their attributes and their text, in
  which the escapes are resolved.

Markup whose names are clean has a cut, `Markup.pieces`, whatever texts and
attribute values it holds (**`isCut_render`**). What is found in that cut is what
was put into the markup: its tags (`tags_pieces`), and its elements with a name,
as long as none of them stands inside another (`elementsNamed_pieces`), with the
texts they were given (`text_pieces_text`).
-/

namespace JournalSite

open Text

/-- A text without angle brackets. -/
def Unbracketed (cs : List Char) : Prop := ∀ c ∈ cs, c ≠ '<' ∧ c ≠ '>'

theorem unbracketed_append {cs ds : List Char} :
    Unbracketed (cs ++ ds) ↔ Unbracketed cs ∧ Unbracketed ds :=
  List.forall_mem_append

theorem unbracketed_cons {c : Char} {cs : List Char} :
    Unbracketed (c :: cs) ↔ (c ≠ '<' ∧ c ≠ '>') ∧ Unbracketed cs :=
  List.forall_mem_cons

theorem unbracketed_flatMap {α : Type} {f : α → List Char} {xs : List α} :
    Unbracketed (xs.flatMap f) ↔ ∀ x ∈ xs, Unbracketed (f x) :=
  List.forall_mem_flatMap

/-! ### Cutting a page -/

/-- A piece of a written page. -/
inductive Piece where
  /-- A tag, with what stands between its angle brackets. -/
  | tag (inner : List Char)
  /-- A character outside of all tags. -/
  | char (c : Char)
  deriving DecidableEq, Repr

namespace Piece

/-- The characters of a piece. -/
def chars : Piece → List Char
  | tag inner => '<' :: (inner ++ ['>'])
  | char c => [c]

/-- A piece has no angle brackets but the two of a tag. -/
def Plain : Piece → Prop
  | tag inner => Unbracketed inner
  | char c => Unbracketed [c]

/-- A tag as it is written. -/
def tag? : Piece → Option String
  | tag inner => some (String.ofList (chars (tag inner)))
  | char _ => none

/-- A character outside of all tags. -/
def char? : Piece → Option Char
  | tag _ => none
  | char c => some c

end Piece

/-- The pieces that a page is cut into: together they are the page, and no angle bracket stands in
them but those of the tags. -/
structure IsCut (html : String) (ps : List Piece) : Prop where
  /-- Nothing is lost. -/
  chars : html.toList = ps.flatMap Piece.chars
  /-- Every angle bracket begins or ends a tag. -/
  plain : ∀ p ∈ ps, p.Plain

/-- Plain pieces that are written in the same way are the same. -/
theorem pieces_unique {ps qs : List Piece} (hp : ∀ p ∈ ps, p.Plain) (hq : ∀ q ∈ qs, q.Plain)
    (h : ps.flatMap Piece.chars = qs.flatMap Piece.chars) : ps = qs := by
  induction ps generalizing qs with
  | nil =>
    cases qs with
    | nil => rfl
    | cons q qs => cases q <;> simp [Piece.chars] at h
  | cons p ps ih =>
    rw [List.forall_mem_cons] at hp
    cases qs with
    | nil => cases p <;> simp [Piece.chars] at h
    | cons q qs =>
      rw [List.forall_mem_cons] at hq
      cases p with
      | char c =>
        cases q with
        | char d =>
          simp only [List.flatMap_cons, Piece.chars, List.cons_append, List.nil_append,
            List.cons.injEq] at h
          rw [h.1, ih hp.2 hq.2 h.2]
        | tag t =>
          simp only [List.flatMap_cons, Piece.chars, List.cons_append, List.nil_append,
            List.cons.injEq] at h
          exact absurd h.1 (hp.1 c List.mem_cons_self).1
      | tag s =>
        cases q with
        | char d =>
          simp only [List.flatMap_cons, Piece.chars, List.cons_append, List.nil_append,
            List.cons.injEq] at h
          exact absurd h.1.symm (hq.1 d List.mem_cons_self).1
        | tag t =>
          have hs : '>' ∉ s := fun hmem => (hp.1 _ hmem).2 rfl
          have ht : '>' ∉ t := fun hmem => (hq.1 _ hmem).2 rfl
          simp only [List.flatMap_cons, Piece.chars, List.cons_append, List.append_assoc,
            List.nil_append, List.cons.injEq, true_and] at h
          obtain ⟨rfl, hrest⟩ := append_cons_unique hs ht h
          rw [ih hp.2 hq.2 hrest]

/-- A page has one cut at most. -/
theorem IsCut.unique {html : String} {ps qs : List Piece} (hp : IsCut html ps)
    (hq : IsCut html qs) : ps = qs :=
  pieces_unique hp.plain hq.plain (hp.chars.symm.trans hq.chars)

/-! ### What is found in a cut -/

/-- The tags, as they are written. -/
def tags (ps : List Piece) : List String := ps.filterMap Piece.tag?

/-- A text with its escapes resolved. -/
def unescaped : List Char → List Char
  | '&' :: 'a' :: 'm' :: 'p' :: ';' :: cs => '&' :: unescaped cs
  | '&' :: 'l' :: 't' :: ';' :: cs => '<' :: unescaped cs
  | '&' :: 'g' :: 't' :: ';' :: cs => '>' :: unescaped cs
  | c :: cs => c :: unescaped cs
  | [] => []

/-- An element of a page as a reader finds it. -/
structure Element where
  /-- What stands between the angle brackets of the opening tag. -/
  opening : List Char
  /-- What stands between the two tags. -/
  content : List Piece
  deriving DecidableEq, Repr

/-- The elements with a name, in the order of their opening tags. An opening tag begins with the
name, and the element ends at the next closing tag with the same name. -/
def elementsNamed (name : String) : List Piece → List Element
  | [] => []
  | .char _ :: ps => elementsNamed name ps
  | .tag inner :: ps =>
    if inner.takeWhile (· ≠ ' ') = name.toList then
      ⟨inner, ps.takeWhile (· ≠ .tag ('/' :: name.toList))⟩ :: elementsNamed name ps
    else elementsNamed name ps

namespace Element

/-- The text of an element, with its escapes resolved. -/
def text (e : Element) : String :=
  String.ofList (unescaped (e.content.filterMap Piece.char?))

/-- The value that stands behind a name, in a text that was cut at its quote marks. -/
def valueOf (name : List Char) : List (List Char) → Option (List Char)
  | key :: value :: rest =>
    if key = ' ' :: (name ++ ['=']) then some value else valueOf name rest
  | _ => none

/-- The value of an attribute, as it is written in the opening tag. -/
def attribute? (e : Element) (name : String) : Option String :=
  (valueOf name.toList ((e.opening.dropWhile (· ≠ ' ')).splitOn '"')).map String.ofList

end Element

@[simp] theorem tags_append (ps qs : List Piece) : tags (ps ++ qs) = tags ps ++ tags qs :=
  List.filterMap_append

@[simp] theorem tags_map_char (cs : List Char) : tags (cs.map .char) = [] := by
  simp [tags, Piece.tag?, List.filterMap_map, Function.comp_def]

theorem filterMap_char?_map_char (cs : List Char) :
    (cs.map Piece.char).filterMap Piece.char? = cs := by
  simp [Piece.char?, List.filterMap_map, Function.comp_def]

theorem unescaped_cons {c : Char} (hc : c ≠ '&') (cs : List Char) :
    unescaped (c :: cs) = c :: unescaped cs := by
  rw [unescaped.eq_def]
  split <;> simp_all

/-- Escaped text is read as it was. -/
theorem unescaped_flatMap_escapedChar (cs : List Char) :
    unescaped (cs.flatMap Markup.escapedChar) = cs := by
  induction cs with
  | nil => rfl
  | cons c cs ih =>
    rw [List.flatMap_cons, Markup.escapedChar]
    split_ifs with hamp hlt hgt
    · subst hamp
      exact congrArg ('&' :: ·) ih
    · subst hlt
      exact congrArg ('<' :: ·) ih
    · subst hgt
      exact congrArg ('>' :: ·) ih
    · rw [List.singleton_append, unescaped_cons hamp, ih]

/-! ### Markup as it is cut -/

/-- How a text is shown: an empty one as a space. -/
def shownText (content : String) : String :=
  if content = "" then " " else content

namespace Markup

theorem unbracketed_escapedChar (c : Char) : Unbracketed (escapedChar c) := by
  rw [escapedChar]
  split_ifs with hamp hlt hgt
  · simp [Unbracketed]
  · simp [Unbracketed]
  · simp [Unbracketed]
  · exact unbracketed_cons.2 ⟨⟨hlt, hgt⟩, by simp [Unbracketed]⟩

theorem unbracketed_escapedAttributeChar (c : Char) : Unbracketed (escapedAttributeChar c) := by
  rw [escapedAttributeChar]
  split_ifs
  · simp [Unbracketed]
  · exact unbracketed_escapedChar c

theorem unbracketed_textChars (content : String) : Unbracketed (textChars content) := by
  rw [textChars]
  split_ifs
  · simp [Unbracketed]
  · exact unbracketed_flatMap.2 fun c _ => unbracketed_escapedChar c

/-- A text is written as what it is shown as. -/
theorem textChars_eq (content : String) :
    textChars content = (shownText content).toList.flatMap escapedChar := by
  rw [textChars, shownText]
  by_cases h : content = ""
  · subst h
    rfl
  · have hne : content.toList.isEmpty = false := by simpa using h
    rw [hne, if_neg h]
    rfl

/-- A clean name: letters, digits and hyphens. -/
def isCleanName (name : String) : Bool :=
  name.toList.all fun c => c.isAlphanum || c == '-'

/-- Markup with clean names of tags and attributes, and nothing in it that is written as it is. -/
def isClean : Markup → Bool
  | empty | text _ | marker => true
  | element tag attributes inner =>
    isCleanName tag && attributes.all (fun a => isCleanName a.name) && inner.isClean
  | single tag attributes => isCleanName tag && attributes.all fun a => isCleanName a.name
  | verbatim _ => false
  | both first second => first.isClean && second.isClean

/-- What stands in an opening tag. -/
def openingChars (tag : String) (attributes : List Attribute) : List Char :=
  tag.toList ++ attributes.flatMap attributeChars

/-- The pieces that markup is cut into. -/
def pieces : Markup → List Piece
  | empty => []
  | text content => (textChars content).map .char
  | marker => [.tag ['!']]
  | element tag attributes inner =>
    .tag (openingChars tag attributes) :: (inner.pieces ++ [.tag ('/' :: tag.toList)])
  | single tag attributes => [.tag (openingChars tag attributes)]
  | verbatim content => content.toList.map .char
  | both first second => first.pieces ++ second.pieces

theorem flatMap_chars_map_char (cs : List Char) : (cs.map Piece.char).flatMap Piece.chars = cs := by
  simp [List.flatMap_map, Piece.chars]

/-- The pieces of markup are what it is written in. -/
theorem flatMap_chars_pieces (m : Markup) : m.pieces.flatMap Piece.chars = m.chars := by
  induction m with
  | empty => rfl
  | text content => exact flatMap_chars_map_char _
  | marker => rfl
  | element tag attributes inner ih =>
    simp [pieces, chars, Piece.chars, openingChars, openingTag, closingTag, ih]
  | single tag attributes => simp [pieces, chars, Piece.chars, openingChars, openingTag]
  | verbatim content => exact flatMap_chars_map_char _
  | both first second ihf ihs => rw [pieces, chars, List.flatMap_append, ihf, ihs]

/-- The characters of a clean name are none of those that divide a tag. -/
theorem not_mem_of_isCleanName {name : String} (h : isCleanName name = true) {c : Char}
    (hc : (c.isAlphanum || c == '-') = false) : c ∉ name.toList := by
  intro hmem
  have := List.all_eq_true.1 h c hmem
  rw [hc] at this
  cases this

theorem unbracketed_of_isCleanName {name : String} (h : isCleanName name = true) :
    Unbracketed name.toList := by
  intro c hc
  constructor
  · rintro rfl
    exact not_mem_of_isCleanName h (by decide) hc
  · rintro rfl
    exact not_mem_of_isCleanName h (by decide) hc

theorem unbracketed_openingChars {tag : String} {attributes : List Attribute}
    (ht : isCleanName tag = true) (ha : attributes.all (fun a => isCleanName a.name) = true) :
    Unbracketed (openingChars tag attributes) := by
  rw [openingChars, unbracketed_append, unbracketed_flatMap]
  refine ⟨unbracketed_of_isCleanName ht, fun a hmem => ?_⟩
  have hname := unbracketed_of_isCleanName (List.all_eq_true.1 ha a hmem)
  have hvalue : Unbracketed (a.value.toList.flatMap escapedAttributeChar) :=
    unbracketed_flatMap.2 fun c _ => unbracketed_escapedAttributeChar c
  simp only [attributeChars, unbracketed_cons, unbracketed_append]
  exact ⟨by decide, hname, by decide, by decide, hvalue, by decide, by simp [Unbracketed]⟩

/-- The pieces of clean markup are plain, whatever texts and values it holds. -/
theorem plain_of_mem_pieces {m : Markup} (h : m.isClean = true) : ∀ p ∈ m.pieces, p.Plain := by
  induction m with
  | empty => simp [pieces]
  | text content =>
    intro p hp
    obtain ⟨c, hc, rfl⟩ := List.mem_map.1 hp
    have := unbracketed_textChars content c hc
    exact unbracketed_cons.2 ⟨this, by simp [Unbracketed]⟩
  | marker =>
    intro p hp
    rw [List.mem_singleton.1 hp]
    simp [Piece.Plain, Unbracketed]
  | element tag attributes inner ih =>
    simp only [isClean, Bool.and_eq_true] at h
    obtain ⟨⟨ht, ha⟩, hi⟩ := h
    simp only [pieces, List.forall_mem_cons, List.forall_mem_append]
    refine ⟨unbracketed_openingChars ht ha, ih hi, ?_, by simp⟩
    exact unbracketed_cons.2 ⟨by decide, unbracketed_of_isCleanName ht⟩
  | single tag attributes =>
    simp only [isClean, Bool.and_eq_true] at h
    intro p hp
    rw [List.mem_singleton.1 hp]
    exact unbracketed_openingChars h.1 h.2
  | verbatim content => cases h
  | both first second ihf ihs =>
    simp only [isClean, Bool.and_eq_true] at h
    simp only [pieces, List.forall_mem_append]
    exact ⟨ihf h.1, ihs h.2⟩

/-- **Clean markup is cut into its pieces**, whatever texts and attribute values it holds. -/
theorem isCut_render {m : Markup} (h : m.isClean = true) : IsCut m.render m.pieces where
  chars := by rw [render, String.toList_ofList, flatMap_chars_pieces]
  plain := plain_of_mem_pieces h

/-! ### What is found in markup -/

/-- The tags of markup. -/
def tagTexts : Markup → List String
  | empty | text _ | verbatim _ => []
  | marker => ["<!>"]
  | element tag attributes inner =>
    String.ofList (openingTag tag attributes) ::
      (inner.tagTexts ++ [String.ofList (closingTag tag)])
  | single tag attributes => [String.ofList (openingTag tag attributes)]
  | both first second => first.tagTexts ++ second.tagTexts

/-- The tags that are found are those of the markup, and do not depend on its texts. -/
theorem tags_pieces (m : Markup) : tags m.pieces = m.tagTexts := by
  induction m with
  | empty => rfl
  | text content => exact tags_map_char _
  | marker => rfl
  | element tag attributes inner ih =>
    have hopen : (Piece.tag (openingChars tag attributes)).tag? =
        some (String.ofList (openingTag tag attributes)) := by
      simp [Piece.tag?, Piece.chars, openingChars, openingTag]
    have hclose : tags [.tag ('/' :: tag.toList)] = [String.ofList (closingTag tag)] := rfl
    rw [pieces, tagTexts, tags, List.filterMap_cons_some hopen]
    change _ :: tags (_ ++ _) = _
    rw [tags_append, ih, hclose]
  | single tag attributes =>
    simp [pieces, tags, tagTexts, Piece.tag?, Piece.chars, openingChars, openingTag]
  | verbatim content => exact tags_map_char _
  | both first second ihf ihs => rw [pieces, tagTexts, tags_append, ihf, ihs]

/-- The text of an element around a text is that text, as it is shown. -/
theorem text_pieces_text (opening : List Char) (content : String) :
    (Element.mk opening (text content).pieces).text = shownText content := by
  rw [Element.text, pieces, filterMap_char?_map_char, textChars_eq, unescaped_flatMap_escapedChar,
    String.ofList_toList]

/-- The elements of markup with a name: the attributes of each and what stands in it. -/
def named (name : String) : Markup → List (List Attribute × Markup)
  | empty | text _ | marker | single _ _ | verbatim _ => []
  | element tag attributes inner =>
    (if tag = name then [(attributes, inner)] else []) ++ inner.named name
  | both first second => first.named name ++ second.named name

/-- No element with the name stands inside another one. -/
def isFlat (name : String) : Markup → Bool
  | empty | text _ | marker | verbatim _ => true
  | single tag _ => tag != name
  | element tag _ inner => (tag != name || (inner.named name).isEmpty) && inner.isFlat name
  | both first second => first.isFlat name && second.isFlat name

theorem takeWhile_openingChars {tag : String} (h : isCleanName tag = true)
    (attributes : List Attribute) :
    (openingChars tag attributes).takeWhile (· ≠ ' ') = tag.toList := by
  have htag : ∀ c ∈ tag.toList, decide (c ≠ ' ') = true := by
    intro c hc
    have : c ≠ ' ' := by
      rintro rfl
      exact not_mem_of_isCleanName h (by decide) hc
    simpa using this
  rw [openingChars, List.takeWhile_append_of_pos htag]
  cases attributes with
  | nil => simp
  | cons a attributes => simp [attributeChars]

/-- No closing tag is an opening one. -/
theorem closing_ne_openingChars {tag : String} (h : isCleanName tag = true)
    (attributes : List Attribute) (name : List Char) :
    '/' :: name ≠ openingChars tag attributes := by
  intro heq
  have htag := takeWhile_openingChars h attributes
  rw [← heq, List.takeWhile_cons_of_pos (by decide)] at htag
  exact not_mem_of_isCleanName h (c := '/') (by decide) (htag ▸ List.mem_cons_self)

/-- Markup without elements of a name has no closing tag of that name. -/
theorem closing_not_mem_pieces {name : String} {m : Markup} (hclean : m.isClean = true)
    (hnone : m.named name = []) : Piece.tag ('/' :: name.toList) ∉ m.pieces := by
  induction m with
  | empty => simp [pieces]
  | text content => simp [pieces]
  | marker => simp [pieces]
  | element tag attributes inner ih =>
    simp only [isClean, Bool.and_eq_true] at hclean
    simp only [named, List.append_eq_nil_iff, ite_eq_right_iff, List.cons_ne_nil,
      imp_false] at hnone
    have hopen := closing_ne_openingChars hclean.1.1 attributes name.toList
    have hclose : name.toList ≠ tag.toList := fun h => hnone.1 (String.toList_inj.1 h).symm
    simp [pieces, hopen, hclose, ih hclean.2 hnone.2]
  | single tag attributes =>
    simp only [isClean, Bool.and_eq_true] at hclean
    simp [pieces, closing_ne_openingChars hclean.1 attributes name.toList]
  | verbatim content => cases hclean
  | both first second ihf ihs =>
    simp only [isClean, Bool.and_eq_true] at hclean
    simp only [named, List.append_eq_nil_iff] at hnone
    simp [pieces, ihf hclean.1 hnone.1, ihs hclean.2 hnone.2]

theorem elementsNamed_map_char (name : String) (cs : List Char) (ps : List Piece) :
    elementsNamed name (cs.map .char ++ ps) = elementsNamed name ps := by
  induction cs with
  | nil => rfl
  | cons c cs ih => rw [List.map_cons, List.cons_append, elementsNamed, ih]

section

variable {name : String} (hname : isCleanName name = true)

include hname

/-- A tag that does not begin with a name opens no element of that name. -/
theorem elementsNamed_closing (tag : List Char) (ps : List Piece) :
    elementsNamed name (.tag ('/' :: tag) :: ps) = elementsNamed name ps := by
  have hne : ('/' :: tag).takeWhile (· ≠ ' ') ≠ name.toList := by
    intro h
    rw [List.takeWhile_cons_of_pos (by decide)] at h
    exact not_mem_of_isCleanName hname (c := '/') (by decide) (h ▸ List.mem_cons_self)
  rw [elementsNamed, if_neg hne]

/-- The elements that are found in markup, in front of whatever follows, are those of the markup. -/
theorem elementsNamed_pieces_append {m : Markup} (hclean : m.isClean = true)
    (hflat : m.isFlat name = true) (ps : List Piece) :
    elementsNamed name (m.pieces ++ ps) =
      (m.named name).map (fun e => ⟨openingChars name e.1, e.2.pieces⟩) ++
        elementsNamed name ps := by
  induction m generalizing ps with
  | empty => rfl
  | text content => exact elementsNamed_map_char name _ ps
  | marker =>
    have hne : ['!'].takeWhile (· ≠ ' ') ≠ name.toList := by
      intro h
      exact not_mem_of_isCleanName hname (c := '!') (by decide) (h ▸ by decide)
    rw [pieces, List.singleton_append, elementsNamed, if_neg hne]
    rfl
  | element tag attributes inner ih =>
    simp only [isClean, Bool.and_eq_true] at hclean
    simp only [isFlat, Bool.and_eq_true, Bool.or_eq_true, bne_iff_ne, ne_eq,
      List.isEmpty_iff] at hflat
    have hinner : elementsNamed name (inner.pieces ++ .tag ('/' :: tag.toList) :: ps) =
        (inner.named name).map (fun e => ⟨openingChars name e.1, e.2.pieces⟩) ++
          elementsNamed name ps := by
      rw [ih hclean.2 hflat.2, elementsNamed_closing hname]
    rw [pieces, List.cons_append, List.append_assoc, List.singleton_append, elementsNamed,
      takeWhile_openingChars hclean.1.1, hinner, named]
    by_cases htag : tag = name
    · subst htag
      have hnone := hflat.1.resolve_left (fun h => h rfl)
      have hcontent : (inner.pieces ++ Piece.tag ('/' :: tag.toList) :: ps).takeWhile
          (· ≠ .tag ('/' :: tag.toList)) = inner.pieces :=
        takeWhile_append_cons (closing_not_mem_pieces hclean.2 hnone) ps
      rw [if_pos rfl, if_pos rfl, hcontent, hnone]
      rfl
    · rw [if_neg (fun h => htag (String.toList_inj.1 h)), if_neg htag]
      rfl
  | single tag attributes =>
    simp only [isClean, Bool.and_eq_true] at hclean
    simp only [isFlat, bne_iff_ne, ne_eq] at hflat
    rw [pieces, List.singleton_append, elementsNamed, takeWhile_openingChars hclean.1,
      if_neg (fun h => hflat (String.toList_inj.1 h))]
    rfl
  | verbatim content => cases hclean
  | both first second ihf ihs =>
    simp only [isClean, isFlat, Bool.and_eq_true] at hclean hflat
    rw [pieces, List.append_assoc, ihf hclean.1 hflat.1, ihs hclean.2 hflat.2, named,
      List.map_append, List.append_assoc]

/-- **The elements that are found in clean markup** are those of the markup, if none of them stands
inside another. -/
theorem elementsNamed_pieces {m : Markup} (hclean : m.isClean = true)
    (hflat : m.isFlat name = true) :
    elementsNamed name m.pieces =
      (m.named name).map fun e => ⟨openingChars name e.1, e.2.pieces⟩ := by
  have h := elementsNamed_pieces_append hname hclean hflat []
  rwa [List.append_nil, elementsNamed, List.append_nil] at h

/-- The only element with a name has the text it was given, if that is all it holds. -/
theorem texts_elementsNamed {m : Markup} (hclean : m.isClean = true)
    (hflat : m.isFlat name = true) {attributes : List Attribute} {content : String}
    (hnamed : m.named name = [(attributes, text content)]) (hne : content ≠ "") :
    (elementsNamed name m.pieces).map Element.text = [content] := by
  rw [elementsNamed_pieces hname hclean hflat, hnamed, List.map_singleton, List.map_singleton,
    text_pieces_text, shownText, if_neg hne]

end

/-! ### Markup of several parts -/

@[simp] theorem isClean_append (m n : Markup) : (m ++ n).isClean = (m.isClean && n.isClean) := rfl

@[simp] theorem isFlat_append (name : String) (m n : Markup) :
    (m ++ n).isFlat name = (m.isFlat name && n.isFlat name) := rfl

@[simp] theorem named_append (name : String) (m n : Markup) :
    (m ++ n).named name = m.named name ++ n.named name := rfl

@[simp] theorem tagTexts_append (m n : Markup) :
    (m ++ n).tagTexts = m.tagTexts ++ n.tagTexts := rfl

@[simp] theorem isClean_ofList (ms : List Markup) : (ofList ms).isClean = ms.all isClean := by
  induction ms with
  | nil => rfl
  | cons m ms ih => exact congrArg (m.isClean && ·) ih

@[simp] theorem isFlat_ofList (name : String) (ms : List Markup) :
    (ofList ms).isFlat name = ms.all (isFlat name) := by
  induction ms with
  | nil => rfl
  | cons m ms ih => exact congrArg (m.isFlat name && ·) ih

@[simp] theorem named_ofList (name : String) (ms : List Markup) :
    (ofList ms).named name = ms.flatMap (named name) := by
  induction ms with
  | nil => rfl
  | cons m ms ih => exact congrArg (m.named name ++ ·) ih

@[simp] theorem tagTexts_ofList (ms : List Markup) :
    (ofList ms).tagTexts = ms.flatMap tagTexts := by
  induction ms with
  | nil => rfl
  | cons m ms ih => exact congrArg (m.tagTexts ++ ·) ih

end Markup

end JournalSite
