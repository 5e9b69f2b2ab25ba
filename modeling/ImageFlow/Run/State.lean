/-!
# The states of a run

A run is started once per attempt, goes back to `retrying` after each attempt that is to be
repeated, and ends as `succeeded` or `failed`.  Events that make no sense in a state leave it as
it is.
-/

namespace ImageFlow

/-- The state of a run. -/
inductive RunState where
  | init
  | running
  | retrying
  | succeeded
  | failed
  deriving DecidableEq, Inhabited

/-- What happens to a run. -/
inductive RunEvent where
  | start
  | retry
  | succeed
  | fail
  deriving DecidableEq, Inhabited

namespace RunState

def next : RunState → RunEvent → RunState
  | init, .start => running
  | retrying, .start => running
  | running, .retry => retrying
  | running, .succeed => succeeded
  | init, .fail => failed
  | running, .fail => failed
  | retrying, .fail => failed
  | state, _ => state

def isTerminal : RunState → Bool
  | succeeded | failed => true
  | _ => false

def name : RunState → String
  | init => "Init"
  | running => "Running"
  | retrying => "Retrying"
  | succeeded => "Succeeded"
  | failed => "Failed"

/-- The name of a state as it is displayed. -/
def display : RunState → String
  | init => "INIT"
  | running => "RUNNING"
  | retrying => "RETRYING"
  | succeeded => "SUCCEEDED"
  | failed => "FAILED"

/-- No event leads out of a terminal state. -/
theorem next_eq_self_of_isTerminal {state : RunState} (h : state.isTerminal = true)
    (event : RunEvent) : state.next event = state := by
  cases state <;> cases event <;> first | rfl | simp [isTerminal] at h

end RunState

end ImageFlow
