import ImageFlow.Hook.Basic

/-!
# Encryption of disks and images

Every disk and every image that a workflow creates, and every disk attached to an instance, is
encrypted with the key that the user asks for.  The key is named once, with the project of the
top-level workflow, so it is the same at every depth; when it cannot be named nothing is written.
-/

namespace ImageFlow.Encryption

def encryptInstance (key : EncryptionKey) (i : Instance) : Instance :=
  { i with disks := i.disks.map fun disk => { disk with encryptionKey := some key } }

def encryptWork (key : EncryptionKey) (work : StepWork) : StepWork :=
  { work with
    instances := work.instances.map (InstanceGroup.map (encryptInstance key))
    disks := work.disks.map (List.map fun disk => { disk with encryptionKey := some key })
    images := work.images.map (List.map fun image => { image with encryptionKey := some key }) }

def apply (key : EncryptionKey) (workflow : Workflow) : Workflow :=
  workflow.mapWork (encryptWork key)

/-- Encrypts the disks and images of a job with the key that is asked for, if any is. -/
def prepare (request : KeyRequest) (job : Job) : Preparation :=
  match request.name job.workflow.project with
  | .error problem => { job, failure := some (.invalidKey problem) }
  | .ok none => { job }
  | .ok (some name) => .ofWorkflow (apply ⟨name⟩) job

end ImageFlow.Encryption
