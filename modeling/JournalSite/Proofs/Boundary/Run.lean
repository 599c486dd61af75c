import JournalSite.Boundary.State
import JournalSite.Proofs.Runs
import Mathlib.Data.List.DropRight

/-!
# Runs of a boundary

What happens to a boundary is a list of events: attempts, each with a part of its
own, failures that are recorded from outside, and resets. A run carries the
boundary through them and collects the answers. An attempt's answer says what came
of it and how often the part was built, which a counter in the part's own effects
tells (`counted`).

Where a run ends is also said without a run, by `heldAfter`: only the events after
the last reset count, among them the last recorded failure, and if there is none,
the first attempt whose part would fail. The two kinds of event go opposite ways,
since a recorded failure takes the place of the one before and an attempt leaves it.
The two agree event by event (`heldAfter_append`), hence over whole runs
(`runOn_respond_normal`), and so the answers on the way have a closed form too.
-/

namespace JournalSite

/-- A part that counts, besides its own effects, how often it is built. -/
def counted {m : Type → Type} [Monad m] {α : Type} (build : m α) : StateT Nat m α := do
  modify (· + 1)
  build

/-- Counting changes nothing about a part but that it counts. -/
theorem run_counted {m : Type → Type} [Monad m] [LawfulMonad m] {α : Type} (build : m α) (n : Nat) :
    (counted build).run n = (fun result => (result, n + 1)) <$> build := by
  simp [counted]

/-- What can happen to a boundary around parts of the kind `α`. -/
inductive BoundaryEvent (α : Type) where
  /-- An attempt to build a part that would give this result. -/
  | attempt (result : Except Failure α)
  /-- A failure is recorded. -/
  | capture (e : Failure)
  /-- The boundary is reset. -/
  | reset

namespace BoundaryEvent

variable {α : Type}

/-- Whether the event is a reset. -/
def isReset : BoundaryEvent α → Bool
  | reset => true
  | _ => false

/-- The failure that the event records. -/
def recorded? : BoundaryEvent α → Option Failure
  | capture e => some e
  | _ => none

/-- The failure of the part that the event attempts to build. -/
def wouldFail? : BoundaryEvent α → Option Failure
  | attempt (.error e) => some e
  | _ => none

/-- The events after the last reset, all of them if there is none. -/
def sinceReset (events : List (BoundaryEvent α)) : List (BoundaryEvent α) :=
  events.rtakeWhile (!·.isReset)

end BoundaryEvent

/-- What a boundary answers to an event. -/
inductive BoundaryAnswer (α : Type) where
  /-- What came of an attempt, and how often its part was built. -/
  | attempted (outcome : Outcome α) (builds : Nat)
  /-- Whether the recorded failure has moved the boundary out of `normal`. -/
  | captured (moved : Bool)
  /-- A reset has no answer. -/
  | done

namespace Boundary

variable {α : Type}

/-- A normal boundary builds the part, and moves if that fails. -/
theorem attempt_normal {m : Type → Type} [Monad m] [LawfulMonad m] (build : m (Except Failure α)) :
    normal.attempt build =
      (fun
        | .ok part => (.rendered part, normal)
        | .error e => (.captured e, failed e)) <$> build := by
  rw [← bind_pure_comp]
  refine bind_congr fun result => ?_
  cases result with
  | ok part => rfl
  | error e => rfl

/-- The answer to an event, and where the boundary stands after it. -/
def respond (b : Boundary) : BoundaryEvent α → BoundaryAnswer α × Boundary
  | .attempt result =>
    let ((outcome, next), builds) := (b.attempt (counted (m := Id) (pure result))).run 0
    (.attempted outcome builds, next)
  | .capture e => (.captured (b.capture e).1, (b.capture e).2)
  | .reset => (.done, b.reset)

/-- What an attempt does, in each of the two states. -/
theorem respond_attempt (b : Boundary) (result : Except Failure α) :
    b.respond (.attempt result) = match b, result with
      | failed e, _ => (.attempted (.failed e) 0, failed e)
      | normal, .ok part => (.attempted (.rendered part) 1, normal)
      | normal, .error e => (.attempted (.captured e) 1, failed e) := by
  cases b with
  | failed e => rfl
  | normal =>
    cases result with
    | ok part => rfl
    | error e => rfl

@[simp] theorem respond_capture (b : Boundary) (e : Failure) :
    b.respond (.capture e : BoundaryEvent α) = (.captured (!b.isFailed), failed e) := rfl

@[simp] theorem respond_reset (b : Boundary) :
    b.respond (.reset : BoundaryEvent α) = (.done, normal) := rfl

/-! ### The closed form -/

open BoundaryEvent

/-- **The closed form** of where a boundary stands after events. -/
def heldAfter (events : List (BoundaryEvent α)) : Boundary :=
  match ((sinceReset events).filterMap recorded?).getLast? with
  | some e => failed e
  | none =>
    match ((sinceReset events).filterMap wouldFail?).head? with
    | some e => failed e
    | none => normal

theorem heldAfter_append_reset (events : List (BoundaryEvent α)) :
    heldAfter (events ++ [.reset]) = normal := by
  rw [heldAfter, sinceReset, List.rtakeWhile_concat_neg (h := by simp [isReset])]
  rfl

theorem heldAfter_append_capture (events : List (BoundaryEvent α)) (e : Failure) :
    heldAfter (events ++ [.capture e]) = failed e := by
  rw [heldAfter, sinceReset, List.rtakeWhile_concat_pos (h := by simp [isReset])]
  simp [recorded?]

theorem heldAfter_append_attempt (events : List (BoundaryEvent α)) (result : Except Failure α) :
    heldAfter (events ++ [.attempt result]) =
      ((heldAfter events).respond (.attempt result)).2 := by
  have hsince : sinceReset (events ++ [.attempt result]) = sinceReset events ++ [.attempt result] :=
    List.rtakeWhile_concat_pos _ _ _ (by simp [isReset])
  have hrecorded : [BoundaryEvent.attempt result].filterMap recorded? = [] := rfl
  rw [respond_attempt]
  unfold heldAfter
  rw [hsince, List.filterMap_append, List.filterMap_append, hrecorded, List.append_nil]
  cases ((sinceReset events).filterMap recorded?).getLast? with
  | some e => rfl
  | none =>
    cases (sinceReset events).filterMap wouldFail? with
    | cons e rest => rfl
    | nil =>
      cases result with
      | ok part => rfl
      | error e => rfl

/-- The closed form follows the boundary, event by event. -/
theorem heldAfter_append (events : List (BoundaryEvent α)) (event : BoundaryEvent α) :
    heldAfter (events ++ [event]) = ((heldAfter events).respond event).2 := by
  cases event with
  | attempt result => exact heldAfter_append_attempt events result
  | capture e => rw [respond_capture, heldAfter_append_capture]
  | reset => rw [respond_reset, heldAfter_append_reset]

/-- Every run from `normal` ends where the closed form says. -/
theorem runOn_respond_normal (events : List (BoundaryEvent α)) :
    (runOn respond normal events).2 = heldAfter events := by
  induction events using List.reverseRecOn with
  | nil => rfl
  | append_singleton events event ih =>
    rw [runOn_append, ih, heldAfter_append, runOn_cons, runOn_nil]

/-- **The closed form of a run.** From `normal`, any events leave the boundary where `heldAfter`
says. An attempt on the way is answered from where `heldAfter` puts the boundary after the events
before it: a failed boundary answers with its failure and does not build the part, a normal one
builds the part once and answers with the part or its failure. What follows a reset, answers and
all, is the run of the events after the reset alone. -/
theorem runOn_respond_closedForm (events : List (BoundaryEvent α)) :
    (runOn respond normal events).2 = heldAfter events ∧
    (∀ before result later, events = before ++ .attempt result :: later →
      (runOn respond normal events).1[before.length]? =
        some (match heldAfter before, result with
          | failed e, _ => .attempted (.failed e) 0
          | normal, .ok part => .attempted (.rendered part) 1
          | normal, .error e => .attempted (.captured e) 1)) ∧
    ∀ before later, events = before ++ .reset :: later →
      (runOn respond normal events).2 = (runOn respond normal later).2 ∧
        (runOn respond normal events).1.drop (before.length + 1) = (runOn respond normal later).1 := by
  refine ⟨runOn_respond_normal events, ?_, ?_⟩
  · rintro before result later rfl
    rw [answer_runOn, runOn_respond_normal, respond_attempt]
    cases heldAfter before with
    | failed e => rfl
    | normal =>
      cases result with
      | ok part => rfl
      | error e => rfl
  · rintro before later rfl
    rw [runOn_append, runOn_cons, respond_reset]
    refine ⟨rfl, ?_⟩
    rw [← length_runOn respond normal before]
    simp [List.drop_append]

end Boundary

end JournalSite
