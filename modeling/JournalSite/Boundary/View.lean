import JournalSite.Boundary.State
import JournalSite.Markup

/-!
# Boundaries on the page

On the page a boundary shows its part, or in its place a panel that says what
went wrong and offers to try again. It keeps its state between one drawing of the
page and the next, and writes each failure it captures to the log.

A drawing works on a copy of the state, and puts the copy back only when it has
captured a failure: a part that was built leaves the state as it was.
-/

namespace JournalSite

/-- The panel in place of a part that failed. -/
def failurePanel (e : Failure) : Markup :=
  .element "div" [⟨"role", "alert"⟩, ⟨"class", "render-boundary"⟩]
    (.element "h2" [⟨"class", "render-boundary__heading"⟩] (.text "Something went wrong") ++
      .element "p" [⟨"class", "render-boundary__message"⟩] (.text e.panelMessage) ++
      .element "button" [⟨"class", "btn render-boundary__retry"⟩] (.text "Try again"))

/-- A boundary on the page. -/
structure BoundaryView where
  /-- The state kept from one drawing to the next. -/
  state : Boundary
  /-- The lines written to the log so far. -/
  log : List String
  deriving DecidableEq, Repr

namespace BoundaryView

/-- A boundary that has just been put on the page. -/
def fresh : BoundaryView := ⟨.normal, []⟩

/-- Draws the boundary: its part, or the panel of the failure it holds. -/
def draw {m : Type → Type} [Monad m] (build : m (Except Failure Markup)) :
    StateT BoundaryView m Markup := do
  let before ← get
  let (outcome, copy) ← before.state.attempt build
  match outcome with
  | .rendered part => pure part
  | .captured e =>
    set (⟨copy, before.log ++ [e.logLine]⟩ : BoundaryView)
    pure (failurePanel e)
  | .failed e => pure (failurePanel e)

/-- Presses the panel's button to try again. -/
def retry (v : BoundaryView) : BoundaryView :=
  { v with state := v.state.reset }

end BoundaryView

/-- A part inside a boundary of its own, as it is drawn the first time. -/
def guarded (part : Except Failure Markup) : Markup :=
  ((BoundaryView.draw (m := Id) part).run .fresh).1

end JournalSite
