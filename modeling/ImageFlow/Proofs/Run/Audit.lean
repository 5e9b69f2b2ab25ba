import ImageFlow.Run.Audit

/-!
# The steps of a record

What each operation on the record of a run changes, part by part: an event moves the state and adds
it to the transitions when it is another one; opening adds an attempt; closing changes the last
attempt and no other.
-/

namespace ImageFlow

namespace RunState

/-- A run is about to begin an attempt. -/
def Ready (state : RunState) : Prop :=
  state = init ∨ state = retrying

theorem Ready.next_start {state : RunState} (h : state.Ready) : state.next .start = running := by
  rcases h with rfl | rfl
  · rfl
  · rfl

theorem Ready.next_fail {state : RunState} (h : state.Ready) : state.next .fail = failed := by
  rcases h with rfl | rfl
  · rfl
  · rfl

theorem Ready.ne_running {state : RunState} (h : state.Ready) : state ≠ running := by
  rcases h with rfl | rfl
  · decide
  · decide

end RunState

namespace Audit

variable (audit : Audit) (event : RunEvent) (now : Timestamp)

@[simp]
theorem state_record : (audit.record event now).state = audit.state.next event := by
  rw [record]
  split
  · next hsame => exact hsame.symm
  · split <;> rfl

@[simp]
theorem attempts_record : (audit.record event now).attempts = audit.attempts := by
  rw [record]
  split
  · rfl
  · split <;> rfl

theorem stateTransitions_record_of_ne (hmoved : audit.state.next event ≠ audit.state) :
    (audit.record event now).stateTransitions =
      audit.stateTransitions ++ [audit.state.next event] := by
  rw [record, if_neg hmoved]
  split <;> rfl

theorem changeLast_append_singleton {α : Type} (f : α → α) (items : List α) (last : α) :
    changeLast f (items ++ [last]) = items ++ [f last] := by
  induction items with
  | nil => rfl
  | cons item rest ih =>
      cases rest with
      | nil => rfl
      | cons next rest =>
          rw [List.cons_append, List.cons_append, changeLast]
          · exact congrArg (item :: ·) ih
          · simp

/-- From one record to a later one the run went through these states, and no others. -/
structure Passes (states : List RunState) (before after : Audit) : Prop where
  stateTransitions_eq : after.stateTransitions = before.stateTransitions ++ states
  state_eq : after.state = states.getLast?.getD before.state

theorem Passes.refl : Passes [] audit audit := by
  constructor <;> simp

theorem Passes.trans
    {earlier later : List RunState} {first second third : Audit}
    (h : Passes earlier first second) (h' : Passes later second third) :
    Passes (earlier ++ later) first third := by
  constructor
  · rw [h'.stateTransitions_eq, h.stateTransitions_eq, List.append_assoc]
  · rw [h'.state_eq, h.state_eq, List.getLast?_append]
    cases later.getLast? with
    | none => rfl
    | some state => rfl

variable {audit event} in
theorem Passes.record {next : RunState}
    (hnext : audit.state.next event = next) (hmoved : next ≠ audit.state) :
    Passes [next] audit (audit.record event now) := by
  subst hnext
  constructor
  · exact stateTransitions_record_of_ne audit event now hmoved
  · simp

/-- An attempt that is opened and closed at once stands at the end, closed. -/
theorem attempts_finishAttempt_beginAttempt
    (number : Nat) (workflowName : String) (error : Option String) (requested : List String)
    (begun finished : Timestamp) :
    ((audit.beginAttempt number workflowName begun).finishAttempt error requested
        finished).attempts =
      audit.attempts ++
        [{ attempt := number, workflowName, startedAt := begun, finishedAt := some finished, error,
           retryRequestedBy := requested }] := by
  simp [beginAttempt, finishAttempt, changeLast_append_singleton]

end Audit

end ImageFlow
