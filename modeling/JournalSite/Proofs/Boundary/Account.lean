import JournalSite.Proofs.Boundary.Run
import Mathlib

/-!
# The moves of a boundary are accounted for

A boundary fails and recovers again and again. A failure that is met by an attempt,
or recorded while the boundary is normal, moves it to `failed`; a failure that is
recorded later takes the place of the one before and moves nothing. Only a reset
moves it back.

The account of one step, `Accounted`, has what the boundary holds on both
sides, as a payment has the balance before and after it: a boundary that was failed
or fails now is failed afterwards or has been reset. Summed up over a run from
`normal` it says that there are as many failures met as there are resets of a failed
boundary, and one more if the run ends with a failure (**`moves_account`**). Along
with it: parts are built for the attempts that come to something, and between two
moves to `failed` there is a reset.
-/

namespace JournalSite

variable {α : Type}

namespace BoundaryAnswer

/-- Whether an attempt has built its part. -/
def isRendered : BoundaryAnswer α → Bool
  | attempted (.rendered _) _ => true
  | _ => false

/-- Whether an attempt has captured the failure of its part. -/
def isCaptured : BoundaryAnswer α → Bool
  | attempted (.captured _) _ => true
  | _ => false

/-- Whether a recorded failure has moved the boundary. -/
def isMoved : BoundaryAnswer α → Bool
  | captured moved => moved
  | _ => false

/-- How often a part was built for the answer. -/
def builds : BoundaryAnswer α → Nat
  | attempted _ n => n
  | _ => 0

end BoundaryAnswer

/-- A step of a boundary, seen from both sides. -/
abbrev BoundaryMove (α : Type) := Move Boundary (BoundaryEvent α) (BoundaryAnswer α)

namespace BoundaryMove

/-- Whether a boundary that was normal is failed after the step. -/
def fails (m : BoundaryMove α) : Bool := !m.before.isFailed && m.after.isFailed

/-- Whether the step is a reset of a failed boundary. -/
def clears (m : BoundaryMove α) : Bool := m.input.isReset && m.before.isFailed

end BoundaryMove

namespace Boundary

open BoundaryMove

/-- How many failures the boundary holds: one or none. -/
def held (b : Boundary) : Nat := b.isFailed.toNat

/-! ### One step -/

/-- **The account of a step.** -/
structure Accounted (m : BoundaryMove α) : Prop where
  /-- The failure that is held before the step, and the one that is met in it, are cleared by it or
  held after it. -/
  balance : m.before.held + (m.answer.isCaptured.toNat + m.answer.isMoved.toNat) =
    (clears m).toNat + m.after.held
  /-- A part is built once if the step is an attempt that comes to something, and else not at all. -/
  builds : m.answer.builds = m.answer.isRendered.toNat + m.answer.isCaptured.toNat
  /-- The boundary fails exactly in the steps that say so. -/
  fails : fails m = (m.answer.isCaptured || m.answer.isMoved)

section

variable (b : Boundary) (event : BoundaryEvent α)

/-- Whatever a step is about, it is accounted for. -/
theorem accounted_moveOn : Accounted (moveOn respond b event) := by
  cases event with
  | attempt result =>
    rw [moveOn, respond_attempt]
    cases b with
    | failed e => exact ⟨rfl, rfl, rfl⟩
    | normal => cases result <;> exact ⟨rfl, rfl, rfl⟩
  | capture e => cases b <;> exact ⟨rfl, rfl, rfl⟩
  | reset => cases b <;> exact ⟨rfl, rfl, rfl⟩

/-- A failed boundary stays failed, unless it is reset. -/
theorem isFailed_moveOn (hb : b.isFailed = true) (hevent : event.isReset = false) :
    (b.respond event).2.isFailed = true := by
  cases b with
  | normal => cases hb
  | failed e =>
    cases event with
    | attempt result => rw [respond_attempt]; rfl
    | capture e' => rfl
    | reset => cases hevent

end

/-! ### Many steps -/

theorem countP_cons_eq_toNat {β : Type} (p : β → Bool) (x : β) (xs : List β) :
    (x :: xs).countP p = (p x).toNat + xs.countP p := by
  rw [List.countP_cons, Nat.add_comm]
  cases p x <;> rfl

/-- The account of a run, from any state. -/
theorem account_moves (b : Boundary) (events : List (BoundaryEvent α)) :
    b.held + ((moves respond b events).countP (·.answer.isCaptured) +
        (moves respond b events).countP (·.answer.isMoved)) =
      (moves respond b events).countP clears + (runOn respond b events).2.held := by
  induction events generalizing b with
  | nil => simp
  | cons event events ih =>
    have hstep := (accounted_moveOn b event).balance
    have hrest := ih (b.respond event).2
    simp only [moveOn] at hstep
    simp only [moves_cons, moveOn, runOn_cons, countP_cons_eq_toNat]
    omega

/-- The parts that are built in a run. -/
theorem sum_builds_moves (b : Boundary) (events : List (BoundaryEvent α)) :
    ((moves respond b events).map (·.answer.builds)).sum =
      (moves respond b events).countP (·.answer.isRendered) +
        (moves respond b events).countP (·.answer.isCaptured) := by
  induction events generalizing b with
  | nil => rfl
  | cons event events ih =>
    have hstep := (accounted_moveOn b event).builds
    have hrest := ih (b.respond event).2
    simp only [moveOn] at hstep
    simp only [moves_cons, moveOn, List.map_cons, List.sum_cons, countP_cons_eq_toNat]
    omega

/-- As long as no reset comes, a failed boundary is failed. -/
theorem isFailed_runOn {b : Boundary} {events : List (BoundaryEvent α)} (hb : b.isFailed = true)
    (hevents : ∀ event ∈ events, event.isReset = false) :
    (runOn respond b events).2.isFailed = true := by
  induction events generalizing b with
  | nil => exact hb
  | cons event events ih =>
    rw [List.forall_mem_cons] at hevents
    rw [runOn_cons]
    exact ih (isFailed_moveOn b event hb hevents.1) hevents.2

/-- Between two moves to `failed` there is a reset: without one, the boundary that the first of them
leaves failed would be failed before the second. -/
theorem exists_reset_between {b : Boundary} {events : List (BoundaryEvent α)}
    {before between later : List (BoundaryMove α)} {m n : BoundaryMove α}
    (h : moves respond b events = before ++ m :: (between ++ n :: later)) (hm : fails m = true)
    (hn : fails n = true) : ∃ k ∈ between, k.input.isReset = true := by
  obtain ⟨_, events₁, -, -, hfrom⟩ := exists_moves_of_append respond b h
  obtain ⟨_, events₁, -, -, hafter⟩ := exists_input_of_moves_eq_cons respond _ hfrom
  obtain ⟨events₂, events₃, -, rfl, hlater⟩ := exists_moves_of_append respond _ hafter
  obtain ⟨event, _, -, rfl, -⟩ := exists_input_of_moves_eq_cons respond _ hlater
  by_contra hnone
  have hevents : ∀ event ∈ events₂, event.isReset = false := by
    intro event hevent
    rw [← map_input_moves respond m.after events₂] at hevent
    obtain ⟨k, hk, rfl⟩ := List.mem_map.1 hevent
    simpa using fun hreset => hnone ⟨k, hk, hreset⟩
  simp only [fails, Bool.and_eq_true, Bool.not_eq_true'] at hm hn
  have hbefore := isFailed_runOn hm.2 hevents
  exact absurd hn.1 (by simp [moveOn, hbefore])

/-- **The account of a run from `normal`**, whatever the events are. The failures that attempts
capture and the recorded failures that move the boundary are, together, as many as the resets of a
failed boundary, and one more if the run ends failed; and they are the moves from `normal` to
`failed`. A part is built for every attempt that renders it or captures its failure, and for no
other. Between two moves to `failed` there is a reset, and nothing but a reset moves a failed
boundary back to `normal`. -/
theorem moves_account (events : List (BoundaryEvent α)) :
    let run := moves respond normal events
    run.countP (·.answer.isCaptured) + run.countP (·.answer.isMoved) =
      run.countP clears + (if (runOn respond normal events).2.isFailed then 1 else 0) ∧
    (∀ m ∈ run, fails m = (m.answer.isCaptured || m.answer.isMoved)) ∧
    (run.map (·.answer.builds)).sum =
      run.countP (·.answer.isRendered) + run.countP (·.answer.isCaptured) ∧
    (∀ before m between n later, run = before ++ m :: (between ++ n :: later) →
      fails m = true → fails n = true → ∃ k ∈ between, k.input.isReset = true) ∧
    ∀ m ∈ run, m.before.isFailed = true → m.after.isFailed = false → m.input.isReset = true := by
  intro run
  refine ⟨?_, ?_, sum_builds_moves normal events,
    fun before m between n later h => exists_reset_between h, ?_⟩
  · have haccount := account_moves normal events
    have hend : (runOn respond normal events).2.held =
        if (runOn respond normal events).2.isFailed then 1 else 0 := by
      rw [held]
      cases (runOn respond normal events).2.isFailed <;> rfl
    rw [hend] at haccount
    simpa [held, isFailed] using haccount
  · exact forall_mem_moves respond normal (fun b event => (accounted_moveOn b event).fails) events
  · refine forall_mem_moves respond normal (fun b event hbefore hafter => ?_) events
    by_contra hreset
    have := isFailed_moveOn b event hbefore (Bool.eq_false_iff.2 hreset)
    exact absurd hafter (by simp [moveOn, this])

end Boundary

end JournalSite
