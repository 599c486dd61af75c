import JournalSite.Boundary.View
import JournalSite.Proofs.Boundary.PanelMessage
import JournalSite.Proofs.Boundary.Run

/-!
# The boundary on the page and the boundary alone

A boundary on the page is drawn again and again, around parts that may do what
they like with the rest of the world, and in between someone presses the button of
its panel. Beside it runs a plain boundary, on which every drawing is an attempt
and every press a reset (`Boundary.follow`, `BoundaryView.follow`).

Whatever the steps, the page holds the state of the plain boundary after each of
them, shows the part of an attempt that went well and the panel of one that did
not, builds a part when the attempt does, with the same effects on the world, and
logs the failures that the attempts capture, one line each
(**`BoundaryView.runOn_follow_eq`**). What stands in place of a part that failed reads
as the panel of its failure (`Tried.readsAsPanel`). The page copies its state for a
drawing and puts the copy back for a captured failure only; nothing is lost by that
because the other attempts leave the state as it was (`BoundaryView.follow_eq`).
-/

namespace JournalSite

/-- A step of a page around one boundary. A part may read and change the rest of the world, which
does not hold the state of the boundary. -/
inductive PageStep (World : Type) where
  /-- The boundary is drawn around a part. -/
  | draw (build : StateM World (Except Failure Markup))
  /-- The button to try again is pressed. -/
  | retry

/-- What a step does to the plain boundary. -/
structure Tried where
  /-- What came of the attempt, if the step is one. -/
  outcome : Option (Outcome Markup)
  /-- How often the part was built. -/
  builds : Nat
  /-- Where the boundary stands after the step. -/
  state : Boundary

/-- What a step does to the page. -/
structure Drawn where
  /-- What was drawn, as it is written, if the step draws. -/
  html : Option String
  /-- How often the part was built. -/
  builds : Nat
  /-- The state that the page holds after the step. -/
  state : Boundary

/-- What the page is to show for an outcome: the part, or the panel of the failure. -/
def Outcome.html : Outcome Markup → String
  | rendered part => part.render
  | captured e => (failurePanel e).render
  | failed e => (failurePanel e).render

namespace Tried

/-- The failure that the attempt captured. -/
def captured? (t : Tried) : Option Failure :=
  match t.outcome with
  | some (.captured e) => some e
  | _ => none

/-- What the page is to do where the plain boundary does this. -/
def drawn (t : Tried) : Drawn := ⟨t.outcome.map Outcome.html, t.builds, t.state⟩

/-- Where an attempt failed, the page is to show what reads as the panel of the failure. -/
theorem readsAsPanel (t : Tried) {e : Failure}
    (h : t.outcome = some (.captured e) ∨ t.outcome = some (.failed e)) :
    ∃ html ∈ t.drawn.html, ReadsAsPanel html e := by
  refine ⟨(failurePanel e).render, ?_, readsAsPanel_failurePanel e⟩
  rcases h with h | h
  · simp [drawn, h, Outcome.html]
  · simp [drawn, h, Outcome.html]

end Tried

variable {World : Type}

/-- A step of the plain boundary: a drawing is an attempt and a press a reset. -/
def Boundary.follow (s : Boundary × World) : PageStep World → Tried × (Boundary × World)
  | .draw build =>
    let (((outcome, next), builds), world) :=
      Id.run (((s.1.attempt (counted build)).run 0).run s.2)
    (⟨some outcome, builds, next⟩, next, world)
  | .retry => (⟨none, 0, s.1.reset⟩, s.1.reset, s.2)

/-- A step of the page. -/
def BoundaryView.follow (s : BoundaryView × World) :
    PageStep World → Drawn × (BoundaryView × World)
  | .draw build =>
    let (((part, next), builds), world) :=
      Id.run ((((draw (counted build)).run s.1).run 0).run s.2)
    (⟨some part.render, builds, next.state⟩, next, world)
  | .retry => (⟨none, 0, s.1.retry.state⟩, s.1.retry, s.2)

/-! ### One step -/

namespace BoundaryView

variable {m : Type → Type} [Monad m] [LawfulMonad m]

/-- A normal page builds the part, and on a failure keeps it, logs it and shows its panel. -/
theorem run_draw_normal (log : List String) (build : m (Except Failure Markup)) :
    (draw build).run ⟨.normal, log⟩ =
      (fun
        | .ok part => (part, ⟨.normal, log⟩)
        | .error e => (failurePanel e, ⟨.failed e, log ++ [e.logLine]⟩)) <$> build := by
  rw [← bind_pure_comp]
  simp only [draw, Boundary.attempt, StateT.run_bind, StateT.run_get, pure_bind, bind_assoc,
    StateT.run_monadLift, monadLift_self]
  refine bind_congr fun result => ?_
  cases result with
  | ok part => simp
  | error e => simp [Boundary.capture]

/-- A failed page shows the panel and changes nothing. -/
theorem run_draw_failed (e : Failure) (log : List String) (build : m (Except Failure Markup)) :
    (draw build).run ⟨.failed e, log⟩ = pure (failurePanel e, ⟨.failed e, log⟩) := by
  simp [draw, Boundary.attempt]

/-- Draws the boundary around a part that has no effects. -/
def drawPart (v : BoundaryView) (part : Except Failure Markup) : Markup × BoundaryView :=
  Id.run ((draw (m := Id) part).run v)

theorem drawPart_normal (log : List String) (part : Except Failure Markup) :
    drawPart ⟨.normal, log⟩ part = match part with
      | .ok m => (m, ⟨.normal, log⟩)
      | .error e => (failurePanel e, ⟨.failed e, log ++ [e.logLine]⟩) := by
  rw [drawPart, run_draw_normal]
  rfl

theorem drawPart_failed (e : Failure) (log : List String) (part : Except Failure Markup) :
    drawPart ⟨.failed e, log⟩ part = (failurePanel e, ⟨.failed e, log⟩) := by
  rw [drawPart, run_draw_failed]
  rfl

end BoundaryView

/-- What a drawing does to the plain boundary, in each of the two states. -/
theorem Boundary.follow_draw (b : Boundary) (w : World)
    (build : StateM World (Except Failure Markup)) :
    follow (b, w) (.draw build) = match b, build.run w with
      | failed e, _ => (⟨some (.failed e), 0, failed e⟩, failed e, w)
      | normal, (.ok part, w') => (⟨some (.rendered part), 1, normal⟩, normal, w')
      | normal, (.error e, w') => (⟨some (.captured e), 1, failed e⟩, failed e, w') := by
  cases b with
  | failed e => rfl
  | normal =>
    simp only [follow, attempt_normal, StateT.run_map, run_counted]
    rcases build.run w with ⟨result, w'⟩
    cases result with
    | ok part => rfl
    | error e => rfl

/-- What a drawing does to the page, in each of the two states. -/
theorem BoundaryView.follow_draw (b : Boundary) (log : List String) (w : World)
    (build : StateM World (Except Failure Markup)) :
    follow (⟨b, log⟩, w) (.draw build) = match b, build.run w with
      | .failed e, _ => (⟨some (failurePanel e).render, 0, .failed e⟩, ⟨.failed e, log⟩, w)
      | .normal, (.ok part, w') => (⟨some part.render, 1, .normal⟩, ⟨.normal, log⟩, w')
      | .normal, (.error e, w') =>
        (⟨some (failurePanel e).render, 1, .failed e⟩, ⟨.failed e, log ++ [e.logLine]⟩, w') := by
  cases b with
  | failed e =>
    simp only [follow, run_draw_failed]
    rfl
  | normal =>
    simp only [follow, run_draw_normal, StateT.run_map, run_counted]
    rcases build.run w with ⟨result, w'⟩
    cases result with
    | ok part => rfl
    | error e => rfl

/-- What a drawing of the plain boundary can come to, with the state that it was drawn in. -/
theorem Boundary.follow_draw_cases {b₀ b : Boundary} {w w' : World}
    {build : StateM World (Except Failure Markup)} {t : Tried}
    (h : follow (b₀, w) (.draw build) = (t, b, w')) :
    (∃ e, b₀ = failed e ∧ t = ⟨some (.failed e), 0, failed e⟩ ∧ b = failed e ∧ w' = w) ∨
    (∃ part, b₀ = normal ∧ build.run w = (.ok part, w') ∧
      t = ⟨some (.rendered part), 1, normal⟩ ∧ b = normal) ∨
    (∃ e, b₀ = normal ∧ build.run w = (.error e, w') ∧
      t = ⟨some (.captured e), 1, failed e⟩ ∧ b = failed e) := by
  rw [follow_draw] at h
  cases b₀ with
  | failed e =>
    cases h
    exact .inl ⟨e, rfl, rfl, rfl, rfl⟩
  | normal =>
    rcases hbuild : build.run w with ⟨result, w''⟩
    rw [hbuild] at h
    cases result with
    | ok part =>
      cases h
      exact .inr (.inl ⟨part, rfl, rfl, rfl, rfl⟩)
    | error e =>
      cases h
      exact .inr (.inr ⟨e, rfl, rfl, rfl, rfl⟩)

/-- **One step**: the page does what the plain boundary does, and logs the failure that is captured
if one is. -/
theorem BoundaryView.follow_eq (v : BoundaryView) (w : World) (step : PageStep World) {t : Tried}
    {b : Boundary} {w' : World} (h : Boundary.follow (v.state, w) step = (t, b, w')) :
    follow (v, w) step =
      (t.drawn, ⟨b, v.log ++ (t.captured?.map Failure.logLine).toList⟩, w') := by
  obtain ⟨b₀, log⟩ := v
  cases step with
  | retry =>
    cases h
    simp [follow, retry, Tried.drawn, Tried.captured?]
  | draw build =>
    rw [follow_draw]
    obtain ⟨e, rfl, rfl, rfl, rfl⟩ | ⟨part, rfl, hbuild, rfl, rfl⟩ | ⟨e, rfl, hbuild, rfl, rfl⟩ :=
      Boundary.follow_draw_cases h
    · simp [Tried.drawn, Tried.captured?, Outcome.html]
    · simp [hbuild, Tried.drawn, Tried.captured?, Outcome.html]
    · simp [hbuild, Tried.drawn, Tried.captured?, Outcome.html]

/-- The failure of an attempt, captured now or before, is the one that the boundary holds after
it. -/
theorem Boundary.follow_failed {b₀ b : Boundary} {w w' : World} {step : PageStep World} {t : Tried}
    {e : Failure} (h : follow (b₀, w) step = (t, b, w'))
    (ht : t.outcome = some (.captured e) ∨ t.outcome = some (.failed e)) : b = failed e := by
  cases step with
  | retry =>
    cases h
    simp at ht
  | draw build =>
    obtain ⟨e', -, rfl, rfl, -⟩ | ⟨part, -, -, rfl, rfl⟩ | ⟨e', -, -, rfl, rfl⟩ :=
      follow_draw_cases h
    · simpa using ht
    · simp at ht
    · simpa using ht

/-! ### Many steps -/

/-- A failed boundary stays as it is, whatever parts it is drawn around. -/
theorem Boundary.runOn_follow_failed (e : Failure) (w : World)
    (builds : List (StateM World (Except Failure Markup))) :
    runOn follow (failed e, w) (builds.map .draw) =
      (builds.map fun _ => ⟨some (.failed e), 0, failed e⟩, failed e, w) := by
  induction builds with
  | nil => rfl
  | cons build builds ih =>
    rw [List.map_cons, runOn_cons, follow_draw, List.map_cons]
    simp only [ih]

/-- The page follows the plain boundary through any number of steps. -/
theorem BoundaryView.runOn_follow_eq (v : BoundaryView) (w : World) (steps : List (PageStep World))
    {trace : List Tried} {b : Boundary} {w' : World}
    (h : runOn Boundary.follow (v.state, w) steps = (trace, b, w')) :
    runOn follow (v, w) steps =
      (trace.map Tried.drawn, ⟨b, v.log ++ (trace.filterMap Tried.captured?).map Failure.logLine⟩,
        w') := by
  induction steps generalizing v w trace with
  | nil =>
    cases h
    simp
  | cons step steps ih =>
    rcases hstep : Boundary.follow (v.state, w) step with ⟨t, b₁, w₁⟩
    rcases hrest : runOn Boundary.follow (b₁, w₁) steps with ⟨rest, b₂, w₂⟩
    rw [runOn_cons, hstep, hrest] at h
    cases h
    rw [runOn_cons, follow_eq v w step hstep]
    rw [ih ⟨b₁, v.log ++ (t.captured?.map Failure.logLine).toList⟩ w₁ hrest]
    cases hcaptured : t.captured? with
    | none => simp [hcaptured]
    | some e => simp [hcaptured]

/-- After an attempt that failed, and up to the next press, every drawing of the plain boundary
answers with the same failure. -/
theorem Boundary.runOn_follow_append_failed (b : Boundary) (w : World)
    (before later : List (PageStep World)) (build : StateM World (Except Failure Markup))
    (builds : List (StateM World (Except Failure Markup))) {t : Tried} {e : Failure}
    (ht : (runOn follow (b, w)
      (before ++ .draw build :: (builds.map .draw ++ later))).1[before.length]? = some t)
    (he : t.outcome = some (.captured e) ∨ t.outcome = some (.failed e)) {i : Nat}
    (hi : i < builds.length) :
    (runOn follow (b, w)
      (before ++ .draw build :: (builds.map .draw ++ later))).1[before.length + 1 + i]? =
        some ⟨some (.failed e), 0, failed e⟩ := by
  rw [answer_runOn, Option.some_inj] at ht
  rw [Nat.add_assoc, answer_runOn_append, runOn_cons, Nat.add_comm 1 i, List.getElem?_cons_succ]
  rcases hstep : follow (runOn follow (b, w) before).2 (.draw build) with ⟨t', b₁, w₁⟩
  rw [hstep] at ht
  cases ht
  cases follow_failed hstep he
  rw [runOn_append, runOn_follow_failed, List.getElem?_append_left (by simpa using hi)]
  simp [hi]

/-- **The page refines the plain boundary.** From any state and any log, through any steps, the page
shows what `Outcome.html` makes of the outcomes of the plain boundary, builds a part when the
attempt does, holds the state of the plain boundary after every step and leaves the same world. The
log grows by the lines of the captured failures, one each, in their order. Where an attempt failed,
what is drawn reads as the panel of its failure, with the message of the failure. Once a drawing has
failed, every later drawing shows the panel of the same failure and builds nothing, until the button
is pressed. -/
theorem runOn_follow_refines (v : BoundaryView) (w : World) (steps : List (PageStep World)) :
    let page := runOn BoundaryView.follow (v, w) steps
    let plain := runOn Boundary.follow (v.state, w) steps
    page.1 = plain.1.map Tried.drawn ∧ page.2.1.state = plain.2.1 ∧ page.2.2 = plain.2.2 ∧
      page.2.1.log = v.log ++ (plain.1.filterMap Tried.captured?).map Failure.logLine ∧
      (∀ t ∈ plain.1, ∀ e, (t.outcome = some (.captured e) ∨ t.outcome = some (.failed e)) →
        ∃ html ∈ t.drawn.html, ReadsAsPanel html e) ∧
      ∀ before build (builds : List (StateM World (Except Failure Markup))) later,
        steps = before ++ .draw build :: (builds.map .draw ++ later) →
        ∀ t e, plain.1[before.length]? = some t →
          (t.outcome = some (.captured e) ∨ t.outcome = some (.failed e)) → ∀ i < builds.length,
            page.1[before.length + 1 + i]? = some ⟨some (failurePanel e).render, 0, .failed e⟩ := by
  intro page plain
  have hpage : page = (plain.1.map Tried.drawn,
      ⟨plain.2.1, v.log ++ (plain.1.filterMap Tried.captured?).map Failure.logLine⟩, plain.2.2) :=
    BoundaryView.runOn_follow_eq v w steps rfl
  rw [hpage]
  refine ⟨rfl, rfl, rfl, rfl, fun t _ e he => t.readsAsPanel he, ?_⟩
  rintro before build builds later rfl t e ht he i hi
  rw [List.getElem?_map,
    Boundary.runOn_follow_append_failed v.state w before later build builds ht he hi]
  rfl

end JournalSite
