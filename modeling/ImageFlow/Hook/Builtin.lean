import ImageFlow.Hook.Encryption
import ImageFlow.Hook.EnvironmentOverlay
import ImageFlow.Hook.NestedVirtualization
import ImageFlow.Hook.NetworkAssignment
import ImageFlow.Hook.ReleaseCheck
import ImageFlow.Hook.ResourceLabels
import ImageFlow.Hook.SeriesFallback

/-!
# The built-in hooks

The seven concerns of a run as one type, and the chain of them that every run gets.  Only the
machine series keeps a state, and only it ever asks for another attempt.
-/

namespace ImageFlow

inductive Builtin where
  | environment (env : Environment)
  | labels (env : Environment)
  | network (network subnet : String)
  | encryption (key : KeyRequest)
  | nestedVirtualization
  | machineSeries (series : SeriesFallback)
  | releaseCheck (specified : String) (detected : Option OsRelease)
  deriving DecidableEq, Inhabited

namespace Builtin

def name : Builtin → String
  | environment _ => "apply-env"
  | labels _ => "label-resources"
  | network .. => "apply-network"
  | encryption _ => "apply-cmek"
  | nestedVirtualization => "enable-nested-virtualization"
  | machineSeries _ => "update-machine-types"
  | releaseCheck .. => "detection-mismatch"

/-- How a hook prepares a job; credentials are read from the files. -/
def prepare (files : FileNode) : Builtin → Job → Logged Preparation
  | environment env, job => EnvironmentOverlay.prepare files env job
  | labels env, job => .quiet (.ofWorkflow (ResourceLabels.apply env) job)
  | network net subnet, job => .quiet (.ofWorkflow (NetworkAssignment.apply net subnet) job)
  | encryption key, job => .quiet (Encryption.prepare key job)
  | nestedVirtualization, job => .quiet (.ofWorkflow NestedVirtualization.apply job)
  | machineSeries series, job => series.prepare job
  | releaseCheck .., job => .quiet { job }

def judge : Builtin → Option WorkflowError → Logged (Verdict Builtin)
  | machineSeries series, error =>
    let verdict := series.judge error
    ⟨verdict.value.map machineSeries, verdict.events⟩
  | releaseCheck specified detected, error =>
    let judged := ReleaseCheck.judge specified detected error
    ⟨.pass (releaseCheck specified detected) judged.value, judged.events⟩
  | hook, error => .quiet (.pass hook error)

def kind (files : FileNode) : HookKind Builtin where
  name := name
  before := prepare files
  after := judge

/-- The selection of a machine series that an environment asks for, if it names any series. -/
def seriesOf (env : Environment) (troubleshootingUrl : String) : List Builtin :=
  match env.primarySeries? with
  | none => []
  | some primary =>
    [machineSeries { SeriesFallback.ofSeries primary env.secondarySeries? with troubleshootingUrl }]

/-- The chain that every run gets, in the order in which it must run. -/
def defaults (env : Environment) (troubleshootingUrl : String) : List Builtin :=
  [environment env, labels env, network env.network env.subnet]
    ++ seriesOf env troubleshootingUrl
    ++ (if env.nestedVirtualization then [nestedVirtualization] else [])

end Builtin

end ImageFlow
