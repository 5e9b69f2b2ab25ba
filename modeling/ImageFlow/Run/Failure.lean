import ImageFlow.Hook.Basic
import ImageFlow.Workflow.Template

/-!
# How a run fails
-/

namespace ImageFlow

/-- The failure of a run. -/
inductive RunError where
  /-- The template of an attempt cannot be used. -/
  | template (source : TemplateError)
  /-- A hook could not prepare the job. -/
  | setup (hook : String) (source : HookError)
  /-- The error that the last hook handed on. -/
  | workflow (source : WorkflowError)
  /-- The run was cancelled before this attempt. -/
  | cancelled (attempt : Nat)
  /-- Another attempt was asked for after the last one allowed. -/
  | attemptLimit (attempts : Nat) (lastError : Option WorkflowError)
  deriving DecidableEq, Inhabited

def RunError.message : RunError → String
  | template source => source.message
  | setup hook source => "hook " ++ hook ++ " failed before execution: " ++ source.message
  | workflow source => source.message
  | cancelled attempt => "run cancelled before attempt " ++ toString attempt
  | attemptLimit attempts _ =>
    "retry requested after " ++ toString attempts ++ " attempts; giving up"

end ImageFlow
