import ImageFlow.Json.Decode
import ImageFlow.Run.State

/-!
# The record of a run

What is kept of a run: the states it went through and its attempts.  Only changes of state are
recorded, and the change to a terminal state closes the record.  Times are read from a clock by
the caller, in milliseconds.
-/

namespace ImageFlow

/-- A reading of the clock, in milliseconds. -/
abbrev Timestamp := Int

/-- One attempt; it is open until it has a time at which it was finished. -/
structure AttemptRecord where
  /-- The number of the attempt, from one. -/
  attempt : Nat
  workflowName : String
  startedAt : Timestamp
  finishedAt : Option Timestamp := none
  /-- The text of the error that the hooks handed on, none for a success. -/
  error : Option String := none
  /-- The hooks that asked for another attempt. -/
  retryRequestedBy : List String := []
  deriving DecidableEq, Inhabited

structure Audit where
  executionId : String
  state : RunState := .init
  stateTransitions : List RunState := [.init]
  attempts : List AttemptRecord := []
  startedAt : Timestamp
  completedAt : Option Timestamp := none
  duration : Option Int := none
  deriving DecidableEq, Inhabited

namespace Audit

/-- The record of a run that begins now. -/
def begin (executionId : String) (now : Timestamp) : Audit :=
  { executionId, startedAt := now }

/-- Records an event: the new state, when it is another one. -/
def record (audit : Audit) (event : RunEvent) (now : Timestamp) : Audit :=
  let next := audit.state.next event
  if next = audit.state then audit
  else
    let moved :=
      { audit with state := next, stateTransitions := audit.stateTransitions ++ [next] }
    if next.isTerminal then
      { moved with completedAt := some now, duration := some (now - audit.startedAt) }
    else moved

def beginAttempt (audit : Audit) (attempt : Nat) (workflowName : String) (now : Timestamp) :
    Audit :=
  { audit with attempts := audit.attempts ++ [{ attempt, workflowName, startedAt := now }] }

/-- A list with its last element changed. -/
def changeLast {α : Type} (f : α → α) : List α → List α
  | [] => []
  | [last] => [f last]
  | first :: rest => first :: changeLast f rest

def finishAttempt (audit : Audit) (error : Option String) (retryRequestedBy : List String)
    (now : Timestamp) : Audit :=
  { audit with
    attempts := changeLast
      (fun attempt => { attempt with finishedAt := some now, error, retryRequestedBy })
      audit.attempts }

def attemptCount (audit : Audit) : Nat :=
  audit.attempts.length

/-- How many attempts ended with a hook asking for another one. -/
def retriesRequestedBy (audit : Audit) (hook : String) : Nat :=
  audit.attempts.countP (·.retryRequestedBy.contains hook)

def workflowName? (audit : Audit) : Option String :=
  audit.attempts.head?.map (·.workflowName)

end Audit

end ImageFlow
