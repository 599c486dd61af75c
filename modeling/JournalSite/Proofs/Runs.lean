/-!
# Runs

Whatever takes one input after the other, answers each and keeps a state in
between, is run by `runOn`. A run that is cut in two goes on where its first part
ended (`runOn_append`), so the answer to an input depends on the inputs before it
alone, through the state they lead to (`answer_runOn`).

The moves of a run are its steps with all that is to be seen of them: the states on
both sides, the input and the answer. Two moves of a run, one after the other, are
two moves of shorter runs, the second of which begins where the first move ended
(`exists_moves_of_append`).
-/

namespace JournalSite

variable {State Input Answer : Type}

/-- The answers to inputs one after the other, and the state after them. -/
def runOn (step : State → Input → Answer × State) (s : State) : List Input → List Answer × State
  | [] => ([], s)
  | input :: inputs =>
    let (answer, next) := step s input
    let (answers, last) := runOn step next inputs
    (answer :: answers, last)

variable (step : State → Input → Answer × State) (s : State)

@[simp] theorem runOn_nil : runOn step s [] = ([], s) := rfl

theorem runOn_cons (input : Input) (inputs : List Input) :
    runOn step s (input :: inputs) =
      ((step s input).1 :: (runOn step (step s input).2 inputs).1,
        (runOn step (step s input).2 inputs).2) := rfl

/-- A run goes on where the run before it ended. -/
theorem runOn_append (before later : List Input) :
    runOn step s (before ++ later) =
      ((runOn step s before).1 ++ (runOn step (runOn step s before).2 later).1,
        (runOn step (runOn step s before).2 later).2) := by
  induction before generalizing s with
  | nil => rfl
  | cons input before ih => simp only [List.cons_append, runOn_cons, ih]

/-- There is an answer to every input. -/
@[simp] theorem length_runOn (inputs : List Input) :
    (runOn step s inputs).1.length = inputs.length := by
  induction inputs generalizing s with
  | nil => rfl
  | cons input inputs ih => simp only [runOn_cons, List.length_cons, ih]

/-- The answers to later inputs are those of a run of their own, from the state that the inputs
before them lead to. -/
theorem answer_runOn_append (before later : List Input) (i : Nat) :
    (runOn step s (before ++ later)).1[before.length + i]? =
      (runOn step (runOn step s before).2 later).1[i]? := by
  rw [runOn_append, List.getElem?_append_right (by simp)]
  simp

/-- An input is answered from the state that the inputs before it lead to. -/
theorem answer_runOn (before later : List Input) (input : Input) :
    (runOn step s (before ++ input :: later)).1[before.length]? =
      some (step (runOn step s before).2 input).1 :=
  answer_runOn_append step s before (input :: later) 0

/-! ### Moves -/

/-- A step of a run, with all that is to be seen of it. -/
structure Move (State Input Answer : Type) where
  /-- The state before the step. -/
  before : State
  /-- What the step was about. -/
  input : Input
  /-- The answer to the input. -/
  answer : Answer
  /-- The state after the step. -/
  after : State

/-- The step that an input leads to. -/
def moveOn (input : Input) : Move State Input Answer :=
  ⟨s, input, (step s input).1, (step s input).2⟩

/-- The steps of a run. -/
def moves (inputs : List Input) : List (Move State Input Answer) :=
  (runOn (fun s input => (moveOn step s input, (step s input).2)) s inputs).1

@[simp] theorem moves_nil : moves step s [] = [] := rfl

theorem moves_cons (input : Input) (inputs : List Input) :
    moves step s (input :: inputs) =
      moveOn step s input :: moves step (step s input).2 inputs := rfl

/-- The moves of later inputs are those of a run of their own. -/
theorem moves_append (before later : List Input) :
    moves step s (before ++ later) =
      moves step s before ++ moves step (runOn step s before).2 later := by
  induction before generalizing s with
  | nil => rfl
  | cons input before ih => simp only [List.cons_append, moves_cons, runOn_cons, ih]

/-- The inputs of the moves are those of the run. -/
theorem map_input_moves (inputs : List Input) : (moves step s inputs).map Move.input = inputs := by
  induction inputs generalizing s with
  | nil => rfl
  | cons input inputs ih => simp only [moves_cons, List.map_cons, ih, moveOn]

/-- What holds of the step from any state holds of every move. -/
theorem forall_mem_moves {P : Move State Input Answer → Prop}
    (h : ∀ s input, P (moveOn step s input)) (inputs : List Input) :
    ∀ m ∈ moves step s inputs, P m := by
  induction inputs generalizing s with
  | nil => simp
  | cons input inputs ih =>
    rw [moves_cons, List.forall_mem_cons]
    exact ⟨h s input, ih _⟩

/-- The first move of a run is the step that its first input leads to. -/
theorem exists_input_of_moves_eq_cons {inputs : List Input} {m : Move State Input Answer}
    {rest : List (Move State Input Answer)} (h : moves step s inputs = m :: rest) :
    ∃ input later, inputs = input :: later ∧ m = moveOn step s input ∧
      moves step m.after later = rest := by
  cases inputs with
  | nil => cases h
  | cons input later =>
    rw [moves_cons, List.cons.injEq] at h
    obtain ⟨rfl, rfl⟩ := h
    exact ⟨input, later, rfl, rfl, rfl⟩

/-- Moves in front of others are the moves of a run of their own, and the others are those of a run
from where it ends. -/
theorem exists_moves_of_append {inputs : List Input} {front back : List (Move State Input Answer)}
    (h : moves step s inputs = front ++ back) :
    ∃ before later, inputs = before ++ later ∧ moves step s before = front ∧
      moves step (runOn step s before).2 later = back := by
  induction front generalizing s inputs with
  | nil => exact ⟨[], inputs, rfl, rfl, h⟩
  | cons m front ih =>
    obtain ⟨input, inputs, rfl, rfl, hrest⟩ := exists_input_of_moves_eq_cons step s h
    obtain ⟨before, later, rfl, rfl, rfl⟩ := ih _ hrest
    exact ⟨input :: before, later, rfl, rfl, rfl⟩

end JournalSite
