/-!
# Workflow failures

How an attempt fails: a raw failure of the engine, a message meant for the user that stands in
for the cause, or either of these enriched with context.  The text of an enriched failure begins
with its context, so whatever occurs in the text of a cause occurs in the text of every failure
around it.
-/

namespace ImageFlow

/-- The failure of one attempt. -/
inductive WorkflowError where
  /-- A failure of the engine or of an API that it called, with the API's code if it gave one. -/
  | engine (message : String) (code : Option String)
  /-- A message for the user that replaces the cause. -/
  | userInput (message : String)
  /-- A failure enriched with context. -/
  | context (text : String) (source : WorkflowError)
  deriving DecidableEq, Inhabited

namespace WorkflowError

def message : WorkflowError → String
  | engine message _ => message
  | userInput message => message
  | context text source => text ++ ": " ++ source.message

/-- The code of the innermost failure. -/
def code : WorkflowError → Option String
  | engine _ code => code
  | userInput _ => none
  | context _ source => source.code

/-- The causes of a failure, outermost first, without the failure itself. -/
def causes : WorkflowError → List WorkflowError
  | context _ source => source :: source.causes
  | _ => []

/-- A failure wrapped in contexts; the last one is outermost. -/
def wrap (error : WorkflowError) (contexts : List String) : WorkflowError :=
  contexts.foldl (fun inner text => context text inner) error

end WorkflowError

end ImageFlow
