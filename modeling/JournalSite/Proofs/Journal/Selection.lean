import JournalSite.Journal.Entry
import JournalSite.Proofs.Boundary.Page
import JournalSite.Proofs.Boundary.PanelMessage
import JournalSite.Proofs.Calendar.Numbering
import JournalSite.Proofs.Journal.DailyHash

/-!
# The parts of the journal page agree

The page selects a day once, and its parts each take what they need from the
selection in their own way: the links ask for the day shown, the pill for the status,
the entry for its day or failure, and the boundary around the entry draws it. Three
structures say what it is for all parts to show the same: that the page waits
(`Waits`), that it shows a day (`ShowsDay`) and that it shows a failure
(`ShowsFailure`). What is drawn is said by what a reader sees of it: a busy place without
any text, an entry under the heading of its day (`SeesEntry`), or the panel of the failure.

What the fragment of the address comes to is said by `HashNames` without a selection.
**`readSelection_parts`** puts the two together: a page that is not mounted waits and
does not read the fragment, and a mounted one reads it once and shows, in all its
parts, the day or the failure that the fragment comes to.
-/

namespace JournalSite

open Markup

/-! ### What a reader sees of the entry -/

/-- The tags of the place of an entry that waits. -/
def pendingTags : List String :=
  ["<article aria-busy=\"true\" class=\"journal-entry journal-entry--pending\">", "</article>"]

/-- What a reader sees of the place of an entry that waits. -/
structure SeesPending (ps : List Piece) : Prop where
  /-- There are the two tags of the place, and no others. -/
  tags : tags ps = pendingTags
  /-- Nothing stands between them. -/
  text : (elementsNamed "article" ps).map Element.text = [""]

/-- A page in writing that reads as the place of an entry that waits. -/
def ReadsAsPending (html : String) : Prop := ∃ ps, IsCut html ps ∧ SeesPending ps

/-- The tags of the entry of a day. -/
def entryTags : List String :=
  ["<article class=\"journal-entry\">", "<h1 class=\"journal-entry__date\">", "</h1>",
    "<textarea class=\"journal-entry__body\" placeholder=\"What's on your mind today?\">",
    "</textarea>", "</article>"]

/-- What a reader sees of the entry of the day `d`. -/
structure SeesEntry (ps : List Piece) (d : Day) : Prop where
  /-- There are the tags of an entry, and no others. -/
  tags : tags ps = entryTags
  /-- The heading is that of the day. -/
  heading : (elementsNamed "h1" ps).map Element.text = [d.heading]
  /-- Nothing is written in the entry yet. -/
  body : (elementsNamed "textarea" ps).map Element.text = [""]

/-- A page in writing that reads as the entry of the day `d`. -/
def ReadsAsEntry (html : String) (d : Day) : Prop := ∃ ps, IsCut html ps ∧ SeesEntry ps d

theorem tags_dayEntry (d : Day) : tags (dayEntry d).pieces = entryTags := by
  rw [tags_pieces]
  rfl

theorem heading_ne_empty (d : Day) : d.heading ≠ "" := by
  intro h
  have hcomma : ',' ∈ d.heading.toList := by simp [Day.heading]
  rw [h] at hcomma
  cases hcomma

theorem readsAsEntry_dayEntry (d : Day) : ReadsAsEntry (dayEntry d).render d := by
  refine ⟨(dayEntry d).pieces, isCut_render rfl, tags_dayEntry d, ?_, ?_⟩
  · exact texts_elementsNamed rfl rfl rfl rfl (heading_ne_empty d)
  · rw [elementsNamed_pieces rfl rfl rfl]
    rfl

theorem readsAsPending_pendingEntry : ReadsAsPending pendingEntry.render := by
  refine ⟨pendingEntry.pieces, isCut_render rfl, ?_, ?_⟩
  · rw [tags_pieces]
    rfl
  · rw [elementsNamed_pieces rfl rfl rfl]
    rfl

/-! ### What a page shows -/

/-- How an entry stands follows from the numbers of the two days. -/
theorem entryStatus_eq (d today : Day) :
    entryStatus d today =
      if d.number < today.number then "published"
      else if d.number = today.number then "draft" else "pending" := by
  rw [entryStatus, Day.compare_eq]
  rcases Int.lt_trichotomy d.number today.number with h | h | h
  · rw [compare_lt_iff_lt.2 h, if_pos h]
  · rw [compare_eq_iff_eq.2 h, if_neg (by omega), if_pos h]
  · rw [compare_gt_iff_gt.2 h, if_neg (by omega), if_neg (by omega)]

/-- All parts of the page wait for the fragment. -/
structure Waits (s : DaySelection) (today : Day) : Prop where
  /-- Nothing is selected. -/
  pending : s = .pending
  /-- There are no links. -/
  shownDay : s.shownDay = none
  /-- The pill says so. -/
  status : s.status today = "loading"
  /-- The entry has no day, and has not failed. -/
  entryDay : s.entryDay = .ok none
  /-- A normal boundary draws the place of the entry and stays normal. -/
  draw : ∀ log, BoundaryView.drawPart ⟨.normal, log⟩ (renderEntry s) =
    (pendingEntry, ⟨.normal, log⟩)
  /-- A reader sees that the place is busy. -/
  seen : ReadsAsPending pendingEntry.render

/-- All parts of the page show the day `d`. -/
structure ShowsDay (s : DaySelection) (today d : Day) : Prop where
  /-- The links are those of the day. -/
  shownDay : s.shownDay = some d
  /-- The pill says how the entry of the day stands. -/
  status : s.status today = entryStatus d today
  /-- An entry stands in one of three ways. -/
  status_mem : entryStatus d today ∈ ["published", "draft", "pending"]
  /-- The entry is that of the day. -/
  entryDay : s.entryDay = .ok (some d)
  /-- A normal boundary draws the entry of the day and stays normal. -/
  draw : ∀ log, BoundaryView.drawPart ⟨.normal, log⟩ (renderEntry s) =
    (dayEntry d, ⟨.normal, log⟩)
  /-- A reader sees the entry under the heading of the day. -/
  seen : ReadsAsEntry (dayEntry d).render d

/-- All parts of the page show that there is no day, because of the failure `e`. -/
structure ShowsFailure (s : DaySelection) (today : Day) (e : Failure) : Prop where
  /-- There are no links. -/
  shownDay : s.shownDay = none
  /-- The pill says so. -/
  status : s.status today = "unknown"
  /-- The entry fails. -/
  entryDay : s.entryDay = .error e
  /-- A normal boundary captures the failure, logs it and draws its panel. -/
  draw : ∀ log, BoundaryView.drawPart ⟨.normal, log⟩ (renderEntry s) =
    (failurePanel e, ⟨.failed e, log ++ [e.logLine]⟩)
  /-- A reader sees the panel with the message of the failure. -/
  seen : ReadsAsPanel (failurePanel e).render e

theorem waits_pending (today : Day) : Waits .pending today where
  pending := rfl
  shownDay := rfl
  status := rfl
  entryDay := rfl
  draw log := BoundaryView.drawPart_normal log _
  seen := readsAsPending_pendingEntry

theorem showsDay_ok (d today : Day) : ShowsDay (.hash (.ok d)) today d where
  shownDay := rfl
  status := rfl
  status_mem := by
    rw [entryStatus_eq]
    repeat' split
    all_goals simp
  entryDay := rfl
  draw log := BoundaryView.drawPart_normal log _
  seen := readsAsEntry_dayEntry d

theorem showsFailure_error (error : DailyHashError) (today : Day) :
    ShowsFailure (.hash (.error error)) today (.ofError error.message error.causes) where
  shownDay := rfl
  status := rfl
  entryDay := rfl
  draw log := BoundaryView.drawPart_normal log _
  seen := readsAsPanel_failurePanel _

/-- A page does not show a day and a failure. -/
theorem ShowsDay.not_showsFailure {s : DaySelection} {today d : Day} (h : ShowsDay s today d)
    (e : Failure) : ¬ ShowsFailure s today e := by
  intro he
  have := h.shownDay.symm.trans he.shownDay
  cases this

/-! ### What a fragment comes to -/

/-- The fragment is about a day, and `date` stands in the place of the date. -/
def IsDailyHash (hash date : String) : Prop :=
  hash = "daily/" ++ date ∨ hash = "#daily/" ++ date

/-- What a fragment comes to: a day or a failure. -/
inductive HashNames (hash : String) : Except Failure Day → Prop where
  /-- The text in the place of the date is the date of a day. -/
  | day {date : String} {d : Day} : IsDailyHash hash date → Day.ofDate? date = .ok d →
      HashNames hash (.ok d)
  /-- The fragment is not about a day. -/
  | notDaily : (∀ date, ¬ IsDailyHash hash date) →
      HashNames hash (.error ⟨"No journal day selected", none⟩)
  /-- The text in the place of the date has a fault, which is the context of the failure. -/
  | invalidDate {date : String} {fault : DateFault} : IsDailyHash hash date →
      Day.ofDate? date = .error fault →
      HashNames hash (.error ⟨"Not a valid journal date: " ++ date, some fault.message⟩)

theorem dailyDate?_eq_some_iff_isDailyHash {hash date : String} :
    dailyDate? hash.toList = some date.toList ↔ IsDailyHash hash date := by
  rw [dailyDate?_eq_some_iff, IsDailyHash, ← String.toList_inj, ← String.toList_inj,
    String.toList_append, String.toList_append]
  constructor
  · intro h
    rcases withoutMark_cases hash.toList with hmark | ⟨hnone, -⟩
    · right
      rw [hmark, h]
      rfl
    · left
      rw [hnone, h]
      rfl
  · rintro (h | h)
    · rw [h]
      rfl
    · rw [h]
      rfl

/-- The fragment comes to the day that is read from it, or else to the failure that its error is
turned into. -/
theorem hashNames_parseDailyHash (hash : String) :
    HashNames hash ((parseDailyHash hash).mapError fun error =>
      .ofError error.message error.causes) := by
  cases hdate : dailyDate? hash.toList with
  | none =>
    rw [parseDailyHash, hdate]
    refine .notDaily fun date h => ?_
    rw [← dailyDate?_eq_some_iff_isDailyHash, hdate] at h
    cases h
  | some cs =>
    have hdaily : IsDailyHash hash (String.ofList cs) := by
      rw [← dailyDate?_eq_some_iff_isDailyHash, String.toList_ofList, hdate]
    have hread : Day.ofDate? (String.ofList cs) = Day.ofDateChars? cs := by
      rw [Day.ofDate?, String.toList_ofList]
    rw [parseDailyHash_of_date (dailyDate?_eq_some_iff.1 hdate)]
    cases hday : Day.ofDateChars? cs with
    | ok d => exact .day hdaily (hread.trans hday)
    | error fault => exact .invalidDate hdaily (hread.trans hday)

/-! ### The selection of a page -/

/-- Selects the day of a fragment, and counts how often the fragment is read. -/
def readSelection (mounted : Bool) (hash : String) : DaySelection × Nat :=
  Id.run ((selectDay mounted (counted (pure hash))).run 0)

theorem readSelection_false (hash : String) : readSelection false hash = (.pending, 0) := rfl

theorem readSelection_true (hash : String) :
    readSelection true hash = (.hash (parseDailyHash hash), 1) := rfl

/-- **The parts of the page agree.** A page that is not mounted waits, whatever the fragment is, and
does not read it. A mounted page reads the fragment once, and one of two things holds, and not the
other: the fragment names a day and all parts show that day, or it comes to a failure and all parts
show that failure. -/
theorem readSelection_parts (hash : String) (today : Day) :
    ((readSelection false hash).2 = 0 ∧ Waits (readSelection false hash).1 today) ∧
    (readSelection true hash).2 = 1 ∧
      Xor (∃ d, HashNames hash (.ok d) ∧ ShowsDay (readSelection true hash).1 today d)
        (∃ e, HashNames hash (.error e) ∧ ShowsFailure (readSelection true hash).1 today e) := by
  rw [readSelection_false, readSelection_true]
  have hnames := hashNames_parseDailyHash hash
  refine ⟨⟨rfl, waits_pending today⟩, rfl, ?_⟩
  cases hparse : parseDailyHash hash with
  | ok d =>
    rw [hparse] at hnames
    have hday := showsDay_ok d today
    refine .inl ⟨⟨d, hnames, hday⟩, ?_⟩
    rintro ⟨e, -, h⟩
    exact hday.not_showsFailure e h
  | error error =>
    rw [hparse] at hnames
    have hfailure := showsFailure_error error today
    refine .inr ⟨⟨_, hnames, hfailure⟩, ?_⟩
    rintro ⟨d, -, h⟩
    exact h.not_showsFailure _ hfailure

end JournalSite
