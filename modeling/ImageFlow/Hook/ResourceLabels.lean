import ImageFlow.Environment
import ImageFlow.Text.Case
import ImageFlow.Workflow.Traversal

/-!
# Labels on resources

Every resource that a workflow creates is labelled with the tool and the run it belongs to.
Instances and disks are marked as temporary; images keep the label of the tool itself.  The tool's
labels win over those of the user, and these over those of the template.
-/

namespace ImageFlow.ResourceLabels

/-- The label of temporary resources. -/
def temporaryKey (env : Environment) : String :=
  env.tool.resourceLabelName ++ "-tmp"

/-- The label of images. -/
def imageKey (env : Environment) : String :=
  env.tool.resourceLabelName

/-- The label that names the run. -/
def buildKey (env : Environment) : String :=
  env.tool.resourceLabelName ++ "-build-id"

/-- The labels of a resource that is marked with `toolKey`. -/
def labels (env : Environment) (toolKey : String) : OrderedMap String :=
  let marked := env.labels.insert toolKey "true"
  if env.executionId.isEmpty then marked
  else marked.insert (buildKey env) (Text.lower env.executionId)

def labelInstance (env : Environment) (i : Instance) : Instance :=
  { i with labels := (labels env (temporaryKey env)).overlay i.labels }

def labelDisk (env : Environment) (disk : Disk) : Disk :=
  { disk with labels := (labels env (temporaryKey env)).overlay disk.labels }

def labelImage (env : Environment) (image : Image) : Image :=
  { image with labels := (labels env (imageKey env)).overlay image.labels }

def labelWork (env : Environment) (work : StepWork) : StepWork :=
  { work with
    instances := work.instances.map (InstanceGroup.map (labelInstance env))
    disks := work.disks.map (List.map (labelDisk env))
    images := work.images.map (List.map (labelImage env)) }

/-- A workflow whose resources are labelled, at every depth. -/
def apply (env : Environment) (workflow : Workflow) : Workflow :=
  workflow.mapWork (labelWork env)

end ImageFlow.ResourceLabels
