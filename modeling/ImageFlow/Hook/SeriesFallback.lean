import ImageFlow.Hook.Basic
import ImageFlow.Machine.Series
import ImageFlow.Quota
import ImageFlow.Workflow.LoggedVisit

/-!
# Machine series with a fallback

Every instance is pointed at one machine series.  When an attempt fails because the CPU quota of
the first series is exhausted, another attempt is asked for, once, on the second series; from then
on that series stays selected and nothing more is asked for.
-/

namespace ImageFlow

/-- Which series is selected. -/
inductive FallbackState where
  | primary
  | fallenBack
  deriving DecidableEq, Inhabited

/-- The page that a warning about exhausted quota refers to, unless another one is configured. -/
def defaultTroubleshootingUrl : String :=
  "https://cloud.google.com/compute/docs/troubleshooting/troubleshooting-import-export-images"

/-- The selection of a machine series. -/
structure SeriesFallback where
  primary : String
  secondary : Option String
  state : FallbackState := .primary
  troubleshootingUrl : String := defaultTroubleshootingUrl
  deriving DecidableEq, Inhabited

namespace SeriesFallback

/-- A fresh selection; an empty second series is none. -/
def ofSeries (primary : String) (secondary : Option String) : SeriesFallback :=
  { primary, secondary := secondary.filter (!·.isEmpty) }

/-- The series that the next attempt uses. -/
def active (s : SeriesFallback) : String :=
  match s.state, s.secondary with
  | .fallenBack, some secondary => secondary
  | _, _ => s.primary

/-- An instance in a series; a machine type without a dash is left alone, which is reported. -/
def moveInstance (series : String) (i : Instance) : Logged Instance :=
  match MachineType.inSeries? i.machineType series with
  | some machineType => .quiet { i with machineType }
  | none =>
    ⟨i, [.debug
      ("Machine type " ++ i.machineType ++ " was not updated: "
        ++ MachineType.unknownMessage i.machineType)
      [("instance", i.name)]]⟩

/-- Moves all instances of a job to the selected series. -/
def prepare (s : SeriesFallback) (job : Job) : Logged Preparation := do
  let workflow ← job.workflow.visitInstances (moveInstance s.active)
  return { job := { job with workflow } }

/-- Whether an outcome is a failure for want of quota of the first series. -/
def isExhausted (s : SeriesFallback) (error : Option WorkflowError) : Bool :=
  error.any (Quota.isExhausted · s.primary)

def warning (s : SeriesFallback) (secondary : String) : String :=
  "Workflow failed with an insufficient " ++ s.primary
    ++ " CPUs quota. Requesting retry with " ++ secondary ++ " CPUs. See " ++ s.troubleshootingUrl
    ++ " for details."

/-- Asks for another attempt on the second series, if there is one that is not yet in use and the
quota of the first is exhausted. -/
def judge (s : SeriesFallback) (error : Option WorkflowError) : Logged (Verdict SeriesFallback) :=
  match s.state, s.secondary with
  | .primary, some secondary =>
    if s.isExhausted error then
      ⟨{ hook := { s with state := .fallenBack }, retry := true, error },
        [.warn (s.warning secondary)]⟩
    else .quiet (.pass s error)
  | _, _ => .quiet (.pass s error)

end SeriesFallback

end ImageFlow
