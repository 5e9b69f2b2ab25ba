import ImageFlow.Json.Value

/-!
# Resources that steps create

Instances, disks and images, as far as a run prepares them.  Everything else that a document
says about a resource is kept in `other`, untouched.
-/

namespace ImageFlow

/-- A customer-managed encryption key, by its resource name. -/
structure EncryptionKey where
  kmsKeyName : String
  deriving DecidableEq, Inhabited

structure AttachedDisk where
  source : String := ""
  autoDelete : Bool := false
  encryptionKey : Option EncryptionKey := none
  deriving DecidableEq, Inhabited

/-- Features of a machine beyond its type. -/
structure MachineFeatures where
  nestedVirtualization : Bool := false
  deriving DecidableEq, Inhabited

/-- The network and subnetwork that an interface is attached to. -/
structure NetworkInterface where
  network : String := ""
  subnetwork : String := ""
  deriving DecidableEq, Inhabited

/-- A virtual machine. -/
structure Instance where
  name : String := ""
  machineType : String := ""
  disks : List AttachedDisk := []
  features : Option MachineFeatures := none
  networkInterfaces : List NetworkInterface := []
  labels : OrderedMap String := ∅
  other : OrderedMap Json := ∅
  deriving Inhabited

/-- A disk of its own. -/
structure Disk where
  name : String := ""
  labels : OrderedMap String := ∅
  encryptionKey : Option EncryptionKey := none
  other : OrderedMap Json := ∅
  deriving Inhabited

structure Image where
  name : String := ""
  labels : OrderedMap String := ∅
  encryptionKey : Option EncryptionKey := none
  other : OrderedMap Json := ∅
  deriving Inhabited

/-- The instances that a step creates, those of the beta interface apart. -/
structure InstanceGroup where
  instances : List Instance := []
  beta : List Instance := []
  deriving Inhabited

/-- All instances of a group, those of the beta interface last. -/
def InstanceGroup.all (group : InstanceGroup) : List Instance :=
  group.instances ++ group.beta

def InstanceGroup.map (f : Instance → Instance) (group : InstanceGroup) : InstanceGroup :=
  { instances := group.instances.map f, beta := group.beta.map f }

/-- The group with every instance visited, those of the beta interface last. -/
def InstanceGroup.visit {m : Type → Type} [Monad m] (f : Instance → m Instance)
    (group : InstanceGroup) : m InstanceGroup :=
  return { instances := ← group.instances.mapM f, beta := ← group.beta.mapM f }

theorem InstanceGroup.all_map (f : Instance → Instance) (group : InstanceGroup) :
    (group.map f).all = group.all.map f := by
  simp [InstanceGroup.map, InstanceGroup.all]

end ImageFlow
