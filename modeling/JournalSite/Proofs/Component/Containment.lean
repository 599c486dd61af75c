import JournalSite.Component.ViewTree
import JournalSite.Proofs.Boundary.Page
import Mathlib

/-!
# Failures are contained

A tree of parts is built from its beginning to its end, and the first failure ends
the building, unless a boundary stands around the part that fails. Three things are
said of this (**`failures_contained`**).

* Which failure ends the building: the parts that fail are listed in the order of the
  document, each with what stands around it (`ViewTree.failingLeaves`), and it is the
  failure of the first one that no boundary stands around.
* A boundary is always built, with its part or with the panel of the failure of the
  part.
* A tree with one place left open (`Surroundings`) writes the same around any part
  that is built there (`Surroundings.frame`). A boundary is such a part, so a failure
  inside it changes nothing around it, nor the state of a boundary further out.

Trees are built into markup; here they are followed as they are written
(`ViewTree.html`), with one equation for each kind of tree.
-/

namespace JournalSite

/-! ### Trees as they are written -/

/-- A part in a boundary of its own is drawn as it is, or as the panel of its failure. -/
theorem guarded_eq (part : Except Failure Markup) :
    guarded part = match part with
      | .ok m => m
      | .error e => failurePanel e := by
  change (BoundaryView.drawPart ⟨.normal, []⟩ part).1 = _
  rw [BoundaryView.drawPart_normal]
  cases part with
  | ok m => rfl
  | error e => rfl

namespace ViewTree

/-- A tree as it is written, or the failure that ends its building. -/
def html (t : ViewTree) : Except Failure String :=
  t.build.map Markup.render

/-- Trees as they are written one after the other, or the first failure. -/
def htmlAll (ts : List ViewTree) : Except Failure String :=
  (buildAll ts).map fun parts => (Markup.ofList parts).render

theorem html_division (ts : List ViewTree) :
    (division ts).html = (htmlAll ts).map fun inner => "<div>" ++ inner ++ "<!></div>" := by
  rw [html, build, htmlAll]
  cases buildAll ts with
  | error e => rfl
  | ok parts =>
    simp only [bind, Except.bind, Except.map, Markup.render_element, Markup.listed,
      Markup.render_append, String.append_assoc]
    rfl

theorem html_shell (t : ViewTree) :
    (shell t).html = t.html.map fun inner =>
      "<div class=\"layout-shell\" style=\"" ++ shellStyle ++ "\">" ++ inner ++ "</div>" := by
  rw [html, build, html]
  cases t.build with
  | error e => rfl
  | ok part =>
    simp only [bind, Except.bind, Except.map, layoutShell, Markup.render_element]
    rfl

theorem html_boundary (t : ViewTree) :
    (boundary t).html = .ok (match t.html with
      | .ok inner => inner
      | .error e => (failurePanel e).render) := by
  rw [html, build, html, guarded_eq]
  cases t.build with
  | error e => rfl
  | ok part => rfl

theorem htmlAll_nil : htmlAll [] = .ok "" := by
  rw [htmlAll, buildAll]
  rfl

theorem htmlAll_cons (t : ViewTree) (ts : List ViewTree) :
    htmlAll (t :: ts) = (do
      let first ← t.html
      let rest ← htmlAll ts
      .ok (first ++ rest)) := by
  rw [htmlAll, buildAll, html, htmlAll]
  cases t.build with
  | error e => rfl
  | ok part =>
    cases buildAll ts with
    | error e => rfl
    | ok parts => exact congrArg Except.ok (Markup.render_append part (.ofList parts))

theorem htmlAll_append (ts us : List ViewTree) :
    htmlAll (ts ++ us) = (do
      let first ← htmlAll ts
      let rest ← htmlAll us
      .ok (first ++ rest)) := by
  induction ts with
  | nil =>
    rw [List.nil_append, htmlAll_nil]
    cases htmlAll us with
    | error e => rfl
    | ok rest => exact congrArg Except.ok (String.empty_append).symm
  | cons t ts ih =>
    rw [List.cons_append, htmlAll_cons, htmlAll_cons, ih]
    cases t.html with
    | error e => rfl
    | ok first =>
      cases htmlAll ts with
      | error e => rfl
      | ok inner =>
        cases htmlAll us with
        | error e => rfl
        | ok rest => exact congrArg Except.ok (String.append_assoc).symm

end ViewTree

/-! ### The failure that ends the building -/

/-- What can stand around a part of a tree. -/
inductive Enclosure where
  /-- A division. -/
  | division
  /-- A boundary. -/
  | boundary
  /-- A layout shell. -/
  | shell
  deriving DecidableEq, Repr

/-- A failing part of a tree. -/
structure FailingLeaf where
  /-- What stands around it, from the outside in. -/
  around : List Enclosure
  /-- Its failure. -/
  failure : Failure

namespace FailingLeaf

/-- The same part, with something more around it. -/
def within (outer : Enclosure) (leaf : FailingLeaf) : FailingLeaf :=
  { leaf with around := outer :: leaf.around }

/-- No boundary stands around the part. -/
def Exposed (leaf : FailingLeaf) : Prop := .boundary ∉ leaf.around

instance : DecidablePred Exposed := fun leaf =>
  inferInstanceAs (Decidable (.boundary ∉ leaf.around))

/-- The failure of the first part without a boundary around it. -/
def firstExposed (leaves : List FailingLeaf) : Option Failure :=
  (leaves.find? fun leaf => leaf.Exposed).map failure

theorem firstExposed_append (leaves more : List FailingLeaf) :
    firstExposed (leaves ++ more) = (firstExposed leaves).or (firstExposed more) := by
  rw [firstExposed, List.find?_append, Option.map_or]
  rfl

theorem firstExposed_within {outer : Enclosure} (h : outer ≠ .boundary)
    (leaves : List FailingLeaf) :
    firstExposed (leaves.map (within outer)) = firstExposed leaves := by
  have hexposed : ((fun leaf => decide leaf.Exposed) ∘ within outer) =
      fun leaf => decide leaf.Exposed := by
    funext leaf
    exact decide_eq_decide.2 (by simp [within, Exposed, h.symm])
  rw [firstExposed, List.find?_map, hexposed, Option.map_map]
  rfl

theorem firstExposed_within_boundary (leaves : List FailingLeaf) :
    firstExposed (leaves.map (within .boundary)) = none := by
  simp [firstExposed, List.find?_map, within, Exposed]

end FailingLeaf

namespace ViewTree

mutual

/-- The failing parts of a tree, in the order of the document. -/
def failingLeaves : ViewTree → List FailingLeaf
  | paragraph _ => []
  | division children => (failingLeavesAll children).map (.within .division)
  | pill _ => []
  | boundary inner => (failingLeaves inner).map (.within .boundary)
  | shell inner => (failingLeaves inner).map (.within .shell)
  | failing e => [⟨[], e⟩]

/-- The failing parts of trees that stand one after the other. -/
def failingLeavesAll : List ViewTree → List FailingLeaf
  | [] => []
  | tree :: trees => failingLeaves tree ++ failingLeavesAll trees

end

end ViewTree

/-- The failure of a part that has failed. -/
def failure? {α : Type} : Except Failure α → Option Failure
  | .ok _ => none
  | .error e => some e

theorem failure?_eq_some_iff {α : Type} {result : Except Failure α} {e : Failure} :
    failure? result = some e ↔ result = .error e := by
  cases result with
  | ok a => simp [failure?]
  | error e' => simp [failure?]

theorem failure?_map {α β : Type} (f : α → β) (result : Except Failure α) :
    failure? (result.map f) = failure? result := by
  cases result with
  | ok a => rfl
  | error e => rfl

/-- The state of a boundary after a drawing depends on the failure of the part alone. -/
theorem drawPart_state (v : BoundaryView) (part : Except Failure Markup) :
    (v.drawPart part).2 = match v.state, failure? part with
      | .normal, some e => ⟨.failed e, v.log ++ [e.logLine]⟩
      | _, _ => v := by
  obtain ⟨b, log⟩ := v
  cases b with
  | failed e => rw [BoundaryView.drawPart_failed]
  | normal =>
    rw [BoundaryView.drawPart_normal]
    cases part with
    | ok m => rfl
    | error e => rfl

namespace ViewTree

open FailingLeaf

theorem failure?_htmlAll_cons (t : ViewTree) (ts : List ViewTree) :
    failure? (htmlAll (t :: ts)) = (failure? t.html).or (failure? (htmlAll ts)) := by
  rw [htmlAll_cons]
  cases t.html with
  | error e => rfl
  | ok first =>
    cases htmlAll ts with
    | error e => rfl
    | ok rest => rfl

mutual

theorem failure?_html (t : ViewTree) : failure? t.html = firstExposed t.failingLeaves := by
  cases t with
  | paragraph content => rfl
  | pill status => rfl
  | failing e => rfl
  | division ts =>
    rw [html_division, failure?_map, failure?_htmlAll ts, failingLeaves,
      firstExposed_within (by decide)]
  | boundary t => rw [html_boundary, failingLeaves, firstExposed_within_boundary, failure?]
  | shell t =>
    rw [html_shell, failure?_map, failure?_html t, failingLeaves, firstExposed_within (by decide)]

theorem failure?_htmlAll (ts : List ViewTree) :
    failure? (htmlAll ts) = firstExposed (failingLeavesAll ts) := by
  cases ts with
  | nil => rw [htmlAll_nil]; rfl
  | cons t ts =>
    rw [failure?_htmlAll_cons, failure?_html t, failure?_htmlAll ts, failingLeavesAll,
      firstExposed_append]

end

theorem html_eq_error_iff {t : ViewTree} {e : Failure} :
    t.html = .error e ↔ firstExposed t.failingLeaves = some e := by
  rw [← failure?_eq_some_iff, failure?_html]

example : (division [boundary (failing ⟨"first", none⟩), shell (failing ⟨"second", none⟩),
    failing ⟨"third", none⟩]).html = .error ⟨"second", none⟩ := rfl

theorem exists_html_eq_error_iff {t : ViewTree} :
    (∃ e, t.html = .error e) ↔ ∃ leaf ∈ t.failingLeaves, leaf.Exposed := by
  simp only [html_eq_error_iff, ← Option.isSome_iff_exists, firstExposed, Option.isSome_map,
    List.find?_isSome, decide_eq_true_eq]

end ViewTree

/-! ### Surroundings -/

/-- A tree with one place left open. -/
inductive Surroundings where
  /-- The open place itself. -/
  | hole
  /-- The open place is within one of the parts of a division. -/
  | division (before : List ViewTree) (inner : Surroundings) (after : List ViewTree)
  /-- The open place is within a boundary. -/
  | boundary (inner : Surroundings)
  /-- The open place is within a layout shell. -/
  | shell (inner : Surroundings)

/-- What surroundings write. -/
inductive Frame where
  /-- This stands before and after what the open place holds. -/
  | around (before after : String)
  /-- The open place is not shown: a boundary around it shows a panel. -/
  | instead (all : String)

namespace Frame

/-- Puts what the open place holds into the frame. -/
def put (inner : String) : Frame → String
  | around before after => before ++ inner ++ after
  | instead all => all

/-- The frame with something more before and after it. -/
def within (before after : String) : Frame → Frame
  | around first last => around (before ++ first) (last ++ after)
  | instead all => instead (before ++ all ++ after)

theorem put_within (before after inner : String) (frame : Frame) :
    (frame.within before after).put inner = before ++ frame.put inner ++ after := by
  cases frame with
  | around first last => simp only [within, put, String.append_assoc]
  | instead all => rfl

end Frame

namespace Surroundings

open ViewTree

/-- The tree with `t` in the open place. -/
def fill (t : ViewTree) : Surroundings → ViewTree
  | hole => t
  | division before inner after => .division (before ++ inner.fill t :: after)
  | boundary inner => .boundary (inner.fill t)
  | shell inner => .shell (inner.fill t)

/-- What the surroundings write, or the failure that they have outside of the open place. -/
def frame : Surroundings → Except Failure Frame
  | hole => .ok (.around "" "")
  | division before inner after => do
    let first ← htmlAll before
    let frame ← inner.frame
    let last ← htmlAll after
    .ok (frame.within ("<div>" ++ first) (last ++ "<!></div>"))
  | boundary inner =>
    match inner.frame with
    | .ok frame => .ok frame
    | .error e => .ok (.instead (failurePanel e).render)
  | shell inner => do
    let frame ← inner.frame
    .ok (frame.within ("<div class=\"layout-shell\" style=\"" ++ shellStyle ++ "\">") "</div>")

/-- Surroundings show any tree that is built in the same frame, or fail with the same failure. -/
theorem html_fill (c : Surroundings) {t : ViewTree} {inner : String} (ht : t.html = .ok inner) :
    (c.fill t).html = c.frame.map (Frame.put inner) := by
  induction c with
  | hole => rw [fill, ht]; simp [frame, Except.map, Frame.put]
  | division before c after ih =>
    rw [fill, html_division, htmlAll_append, htmlAll_cons, ih, frame]
    cases htmlAll before with
    | error e => rfl
    | ok first =>
      cases c.frame with
      | error e => rfl
      | ok frame =>
        cases htmlAll after with
        | error e => rfl
        | ok last =>
          simp only [bind, Except.bind, Except.map, Frame.put_within, String.append_assoc]
  | boundary c ih =>
    rw [fill, html_boundary, ih, frame]
    cases c.frame with
    | error e => rfl
    | ok frame => rfl
  | shell c ih =>
    rw [fill, html_shell, ih, frame]
    cases c.frame with
    | error e => rfl
    | ok frame => simp only [bind, Except.bind, Except.map, Frame.put_within]

/-- Around any tree that is built, a boundary is drawn into the same state. -/
theorem drawPart_fill (c : Surroundings) {t t' : ViewTree} {inner inner' : String}
    (ht : t.html = .ok inner) (ht' : t'.html = .ok inner') (v : BoundaryView) :
    (v.drawPart (c.fill t).build).2 = (v.drawPart (c.fill t').build).2 := by
  rw [drawPart_state, drawPart_state, ← failure?_map Markup.render, ← failure?_map Markup.render,
    ← html, ← html, html_fill c ht, html_fill c ht', failure?_map, failure?_map]

end Surroundings

/-- **Failures are contained by the nearest boundary.** Building a tree fails exactly if one of its
failing parts has no boundary around it, with the failure of the first such part. A boundary around
any tree is built, and is written as the tree is or as the panel of its failure, which reads as a
panel with the message of the failure. Around a boundary
the surroundings write what they write around any tree that is built, or fail as they fail around
any such tree, and a boundary around all of it is left in the same state. -/
theorem failures_contained :
    (∀ t : ViewTree, ((∃ e, t.html = .error e) ↔ ∃ leaf ∈ t.failingLeaves, leaf.Exposed) ∧
      ∀ e, t.html = .error e ↔
        (t.failingLeaves.find? fun leaf => leaf.Exposed).map FailingLeaf.failure = some e) ∧
    ∀ t : ViewTree, ∃ inner, (ViewTree.boundary t).html = .ok inner ∧
      (∀ text, t.html = .ok text → inner = text) ∧
      (∀ e, t.html = .error e → inner = (failurePanel e).render ∧ ReadsAsPanel inner e) ∧
      ∀ c : Surroundings, (c.fill (.boundary t)).html = c.frame.map (Frame.put inner) ∧
        ∀ healthy text, healthy.html = .ok text →
          (c.fill healthy).html = c.frame.map (Frame.put text) ∧
          ∀ v : BoundaryView, (v.drawPart (c.fill (.boundary t)).build).2 =
            (v.drawPart (c.fill healthy).build).2 := by
  refine ⟨fun t => ⟨ViewTree.exists_html_eq_error_iff, fun e => ViewTree.html_eq_error_iff⟩,
    fun t => ?_⟩
  have hinner := ViewTree.html_boundary t
  refine ⟨_, hinner, fun text h => by rw [h], fun e h => ?_, fun c => ?_⟩
  · rw [h]
    exact ⟨rfl, readsAsPanel_failurePanel e⟩
  refine ⟨c.html_fill hinner, fun healthy text hhealthy => ?_⟩
  exact ⟨c.html_fill hhealthy, c.drawPart_fill hinner hhealthy⟩

end JournalSite
