import ImageFlow.Log
import ImageFlow.Resource.Key
import ImageFlow.Workflow.Failure
import ImageFlow.Workflow.Job

/-!
# Hooks

A hook is one concern of a run: it prepares the job before each attempt and judges the outcome
after it.  Preparing does not change the hook, so all that a hook carries from one attempt to the
next is what it learned when it judged.  A `HookKind` says how the hooks of one type behave; the
type itself is left open.
-/

namespace ImageFlow

/-- Why a job cannot be prepared.  Such a failure is never retried. -/
inductive HookError where
  | invalidKey (problem : KeyProblem)
  | client (service : Service) (source : ClientError)
  deriving DecidableEq, Inhabited

def HookError.message : HookError → String
  | invalidKey problem => "invalid KMS key: " ++ problem.message
  | client service source =>
    "failed to create " ++ service.name ++ " client: " ++ source.message

/-- A job as a hook leaves it, and why the hook gave up, if it did. -/
structure Preparation where
  job : Job
  failure : Option HookError := none

/-- What a hook makes of an outcome: itself from now on, whether it wants another attempt, and
the error to hand on, none for a success. -/
structure Verdict (η : Type) where
  hook : η
  retry : Bool := false
  error : Option WorkflowError

/-- A verdict that asks for nothing and hands the error on. -/
def Verdict.pass {η : Type} (hook : η) (error : Option WorkflowError) : Verdict η :=
  { hook, error }

/-- The verdict of a hook seen as one of another type. -/
def Verdict.map {η θ : Type} (f : η → θ) (verdict : Verdict η) : Verdict θ :=
  { hook := f verdict.hook, retry := verdict.retry, error := verdict.error }

/-- How the hooks of one type behave. -/
structure HookKind (η : Type) where
  name : η → String
  before : η → Job → Logged Preparation
  after : η → Option WorkflowError → Logged (Verdict η)

/-- Hooks of two kinds side by side. -/
def HookKind.sum {η θ : Type} (left : HookKind η) (right : HookKind θ) : HookKind (η ⊕ θ) where
  name
    | .inl hook => left.name hook
    | .inr hook => right.name hook
  before
    | .inl hook => left.before hook
    | .inr hook => right.before hook
  after
    | .inl hook => fun error =>
      let verdict := left.after hook error
      ⟨verdict.value.map .inl, verdict.events⟩
    | .inr hook => fun error =>
      let verdict := right.after hook error
      ⟨verdict.value.map .inr, verdict.events⟩

/-- A preparation that only changes the workflow. -/
def Preparation.ofWorkflow (f : Workflow → Workflow) (job : Job) : Preparation :=
  { job := job.mapWorkflow f }

end ImageFlow
