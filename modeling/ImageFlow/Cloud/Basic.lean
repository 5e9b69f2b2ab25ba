import ImageFlow.Cloud.Compute
import ImageFlow.Cloud.Metadata
import ImageFlow.Cloud.Storage

/-!
# The cloud as a run sees it

Every operation that a run asks of the cloud is a `CloudCall`, which fixes the type of its
answer.  A `Cloud` answers them over a state of its own, so that anything can stand behind it:
the services themselves, a table of answers, or a cloud that records what it was asked.
-/

namespace ImageFlow

/-- An operation asked of the cloud. -/
inductive CloudCall where
  | metadataProject
  | metadataZone
  | bucketLocation (bucket : String)
  | createBucket (project bucket location : String)
  | zones (project : String)
  | machineTypes (project zone : String)
  | image (project name : String)
  | snapshot (project name : String)
  | subnetwork (project region name : String)
  | createImage (project : String) (spec : ImageSpec)
  deriving DecidableEq

/-- The type of the answer to an operation. -/
abbrev CloudCall.Answer : CloudCall → Type
  | metadataProject => String
  | metadataZone => String
  | bucketLocation _ => String
  | createBucket .. => Unit
  | zones _ => List Zone
  | machineTypes .. => List String
  | image .. => StoredDisk
  | snapshot .. => StoredDisk
  | subnetwork .. => Subnetwork
  | createImage .. => Unit

/-- A cloud in a state of its own. -/
abbrev Cloud (ω : Type) := (call : CloudCall) → Exchange ω call.Answer

namespace Cloud

variable {ω : Type}

/-- A cloud that also records what it is asked, in order. -/
def recorded (cloud : Cloud ω) : Cloud (ω × List CloudCall) := fun call (world, calls) =>
  let (answer, world) := cloud call world
  (answer, world, calls ++ [call])

/-- The cloud behind clients of its services; a listing may have as many pages as the budget
says. -/
def ofClients (transport : Transport ω) (metadata : MetadataClient) (storage : StorageClient)
    (compute : ComputeClient) (budget : Nat) : Cloud ω
  | .metadataProject => metadata.projectId transport
  | .metadataZone => metadata.zone transport
  | .bucketLocation bucket => storage.bucketLocation transport bucket
  | .createBucket project bucket location =>
    storage.createBucket transport project bucket location
  | .zones project => compute.zones transport budget project
  | .machineTypes project zone => compute.machineTypes transport budget project zone
  | .image project name => compute.image transport project name
  | .snapshot project name => compute.snapshot transport project name
  | .subnetwork project region name => compute.subnetwork transport project region name
  | .createImage project spec => compute.createImage transport project spec

end Cloud

end ImageFlow
