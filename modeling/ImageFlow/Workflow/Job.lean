import ImageFlow.Cloud.Compute
import ImageFlow.Cloud.Storage
import ImageFlow.Workflow.Traversal

/-!
# Jobs

A workflow on its way through one attempt: the document itself, the clients that the engine is to
use instead of its own, and the values that the engine has recorded.  A freshly loaded workflow
has neither clients nor values.
-/

namespace ImageFlow

/-- The clients that the engine is to use instead of its own. -/
structure ClientSlots where
  compute : Option ComputeClient := none
  storage : Option StorageClient := none
  logging : Option LoggingClient := none
  deriving DecidableEq, Inhabited

/-- A workflow in one attempt. -/
structure Job where
  workflow : Workflow
  clients : ClientSlots := {}
  outputs : OrderedMap String := ∅
  deriving Inhabited

namespace Job

/-- The job of a freshly loaded workflow. -/
def ofWorkflow (workflow : Workflow) : Job :=
  { workflow }

/-- The job with its workflow changed. -/
def mapWorkflow (f : Workflow → Workflow) (job : Job) : Job :=
  { job with workflow := f job.workflow }

end Job

end ImageFlow
