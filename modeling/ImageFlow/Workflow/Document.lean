import ImageFlow.Json.Decode
import ImageFlow.Workflow.Basic

/-!
# Workflows as documents

How workflows are written as JSON and read back.  The nine members of a workflow are always
written; optional parts are left out when they are absent or empty.  Steps, instances, disks and
images keep the members that they do not know.  Encoding recurses on the workflow; decoding
follows the nesting of the document, so the document's height is fuel enough.
-/

namespace ImageFlow

open Decoder (RecordField field)

/-- A member that is written only when there is a value. -/
def Json.memberIfSome {α : Type} (key : String) (encode : α → Json) :
    Option α → List (String × Json)
  | none => []
  | some value => [(key, encode value)]

/-- A list that is written only when it has elements. -/
def Json.memberIfAny {α : Type} (key : String) (encode : α → Json) :
    List α → List (String × Json)
  | [] => []
  | values => [(key, .array (values.map encode))]

def Json.ofLabels (labels : OrderedMap String) : Json :=
  .object (labels.entries.map fun (key, value) => (key, .text value))

/-- A map of texts that is written only when it has entries. -/
def Json.memberIfLabels (key : String) (labels : OrderedMap String) : List (String × Json) :=
  if labels.isEmpty then [] else [(key, Json.ofLabels labels)]

/-- A text that is written only when it is not empty. -/
def Json.memberIfText (key : String) (s : String) : List (String × Json) :=
  if s.isEmpty then [] else [(key, .text s)]

namespace EncryptionKey

def fields : List (RecordField EncryptionKey) :=
  [field "kmsKeyName" Decoder.text (fun v _ => ⟨v⟩) .refused]

def decode : Decoder EncryptionKey := Decoder.record fields ⟨""⟩

def encode (key : EncryptionKey) : Json :=
  Json.ofPairs [("kmsKeyName", .text key.kmsKeyName)]

end EncryptionKey

namespace AttachedDisk

def fields : List (RecordField AttachedDisk) :=
  [ field "Source" Decoder.text fun v d => { d with source := v }
  , field "AutoDelete" Decoder.bool fun v d => { d with autoDelete := v }
  , field "DiskEncryptionKey" (Decoder.optional EncryptionKey.decode)
      fun v d => { d with encryptionKey := v } ]

def decode : Decoder AttachedDisk := Decoder.record fields {}

def encode (disk : AttachedDisk) : Json :=
  Json.ofPairs <|
    [("Source", .text disk.source), ("AutoDelete", .bool disk.autoDelete)]
      ++ Json.memberIfSome "DiskEncryptionKey" EncryptionKey.encode disk.encryptionKey

end AttachedDisk

namespace MachineFeatures

def fields : List (RecordField MachineFeatures) :=
  [field "EnableNestedVirtualization" Decoder.bool fun v _ => ⟨v⟩]

def decode : Decoder MachineFeatures := Decoder.record fields {}

def encode (features : MachineFeatures) : Json :=
  Json.ofPairs [("EnableNestedVirtualization", .bool features.nestedVirtualization)]

end MachineFeatures

namespace NetworkInterface

def fields : List (RecordField NetworkInterface) :=
  [ field "Network" Decoder.text fun v i => { i with network := v }
  , field "Subnetwork" Decoder.text fun v i => { i with subnetwork := v } ]

def decode : Decoder NetworkInterface := Decoder.record fields {}

def encode (interface : NetworkInterface) : Json :=
  Json.ofPairs <|
    Json.memberIfText "Network" interface.network
      ++ Json.memberIfText "Subnetwork" interface.subnetwork

end NetworkInterface

namespace Instance

def fields : List (RecordField Instance) :=
  [ field "Name" Decoder.text fun v i => { i with name := v }
  , field "MachineType" Decoder.text fun v i => { i with machineType := v }
  , field "Disks" (Decoder.list AttachedDisk.decode) fun v i => { i with disks := v }
  , field "AdvancedMachineFeatures" (Decoder.optional MachineFeatures.decode)
      fun v i => { i with features := v }
  , field "NetworkInterfaces" (Decoder.list NetworkInterface.decode)
      fun v i => { i with networkInterfaces := v }
  , field "Labels" (Decoder.map Decoder.text) fun v i => { i with labels := v } ]

def decode : Decoder Instance :=
  Decoder.openRecord fields (fun key value i => { i with other := i.other.insert key value }) {}

def encode (i : Instance) : Json :=
  Json.ofPairs <|
    [ ("Name", .text i.name), ("MachineType", .text i.machineType)
    , ("Disks", .array (i.disks.map AttachedDisk.encode)) ]
      ++ Json.memberIfSome "AdvancedMachineFeatures" MachineFeatures.encode i.features
      ++ Json.memberIfAny "NetworkInterfaces" NetworkInterface.encode i.networkInterfaces
      ++ Json.memberIfLabels "Labels" i.labels
      ++ i.other.entries

end Instance

namespace Disk

def fields : List (RecordField Disk) :=
  [ field "Name" Decoder.text fun v d => { d with name := v }
  , field "Labels" (Decoder.map Decoder.text) fun v d => { d with labels := v }
  , field "DiskEncryptionKey" (Decoder.optional EncryptionKey.decode)
      fun v d => { d with encryptionKey := v } ]

def decode : Decoder Disk :=
  Decoder.openRecord fields (fun key value d => { d with other := d.other.insert key value }) {}

def encode (d : Disk) : Json :=
  Json.ofPairs <|
    [("Name", .text d.name)]
      ++ Json.memberIfLabels "Labels" d.labels
      ++ Json.memberIfSome "DiskEncryptionKey" EncryptionKey.encode d.encryptionKey
      ++ d.other.entries

end Disk

namespace Image

def fields : List (RecordField Image) :=
  [ field "Name" Decoder.text fun v i => { i with name := v }
  , field "Labels" (Decoder.map Decoder.text) fun v i => { i with labels := v }
  , field "ImageEncryptionKey" (Decoder.optional EncryptionKey.decode)
      fun v i => { i with encryptionKey := v } ]

def decode : Decoder Image :=
  Decoder.openRecord fields (fun key value i => { i with other := i.other.insert key value }) {}

def encode (i : Image) : Json :=
  Json.ofPairs <|
    [("Name", .text i.name)]
      ++ Json.memberIfLabels "Labels" i.labels
      ++ Json.memberIfSome "ImageEncryptionKey" EncryptionKey.encode i.encryptionKey
      ++ i.other.entries

end Image

namespace InstanceGroup

def fields : List (RecordField InstanceGroup) :=
  [ field "Instances" (Decoder.list Instance.decode) fun v g => { g with instances := v }
  , field "InstancesBeta" (Decoder.list Instance.decode) fun v g => { g with beta := v } ]

def decode : Decoder InstanceGroup := Decoder.record fields {}

def encode (group : InstanceGroup) : Json :=
  Json.ofPairs
    [ ("Instances", .array (group.instances.map Instance.encode))
    , ("InstancesBeta", .array (group.beta.map Instance.encode)) ]

end InstanceGroup

/-- The members of a step that its work is written as. -/
def StepWork.encode (work : StepWork) : List (String × Json) :=
  Json.memberIfSome "CreateInstances" InstanceGroup.encode work.instances
    ++ Json.memberIfSome "CreateDisks" (fun disks => .array (disks.map Disk.encode)) work.disks
    ++ Json.memberIfSome "CreateImages" (fun images => .array (images.map Image.encode))
      work.images
    ++ work.other.entries

def NestedWorkflow.fields (workflow : Decoder Workflow) : List (RecordField NestedWorkflow) :=
  [ field "Path" Decoder.text fun v n => { n with path := v }
  , field "Vars" (Decoder.map Decoder.json) fun v n => { n with vars := v }
  , field "Workflow" (Decoder.optional workflow) fun v n => { n with workflow := v } ]

def NestedWorkflow.decode (workflow : Decoder Workflow) : Decoder NestedWorkflow :=
  Decoder.record (NestedWorkflow.fields workflow) {}

def Step.fields (workflow : Decoder Workflow) : List (RecordField Step) :=
  [ field "CreateInstances" (Decoder.optional InstanceGroup.decode)
      fun v s => { s with work := { s.work with instances := v } }
  , field "CreateDisks" (Decoder.optional (Decoder.list Disk.decode))
      fun v s => { s with work := { s.work with disks := v } }
  , field "CreateImages" (Decoder.optional (Decoder.list Image.decode))
      fun v s => { s with work := { s.work with images := v } }
  , field "IncludeWorkflow" (Decoder.optional (NestedWorkflow.decode workflow))
      fun v s => { s with includeWorkflow := v }
  , field "SubWorkflow" (Decoder.optional (NestedWorkflow.decode workflow))
      fun v s => { s with subWorkflow := v } ]

/-- Keeps a member of a step that is no field of it. -/
def Step.keep (key : String) (value : Json) (step : Step) : Step :=
  { step with work := { step.work with other := step.work.other.insert key value } }

def Step.decode (workflow : Decoder Workflow) : Decoder Step :=
  Decoder.openRecord (Step.fields workflow) Step.keep {}

def Workflow.fields (nested : Decoder Workflow) : List (RecordField Workflow) :=
  [ field "Name" Decoder.text fun v w => { w with name := v }
  , field "Project" Decoder.text fun v w => { w with project := v }
  , field "Zone" Decoder.text fun v w => { w with zone := v }
  , field "GCSPath" Decoder.text fun v w => { w with gcsPath := v }
  , field "OAuthPath" Decoder.text fun v w => { w with oauthPath := v }
  , field "DefaultTimeout" Decoder.text fun v w => { w with defaultTimeout := v }
  , field "Vars" (Decoder.map Decoder.json) fun v w => { w with vars := v }
  , field "Steps" (Decoder.map (Step.decode nested)) fun v w => { w with steps := v.entries }
  , field "Dependencies" (Decoder.map (Decoder.list Decoder.text))
      fun v w => { w with dependencies := v } ]

/-- Reads a workflow that is nested less deeply than the fuel says. -/
def Workflow.decodeWithin : Nat → Decoder Workflow
  | 0 => fun _ => .error .mismatch
  | fuel + 1 => Decoder.record (Workflow.fields (Workflow.decodeWithin fuel)) {}

def Workflow.decode : Decoder Workflow := fun document =>
  Workflow.decodeWithin (document.height + 1) document

mutual

def Workflow.encode : Workflow → Json
  | ⟨name, project, zone, gcsPath, oauthPath, defaultTimeout, vars, steps, dependencies⟩ =>
    Json.ofPairs
      [ ("Name", .text name), ("Project", .text project), ("Zone", .text zone)
      , ("GCSPath", .text gcsPath), ("OAuthPath", .text oauthPath)
      , ("DefaultTimeout", .text defaultTimeout), ("Vars", Json.ofMap vars)
      , ("Steps", .object (Step.encodeAll steps))
      , ("Dependencies",
          .object (dependencies.entries.map fun (key, names) => (key, Json.ofTexts names))) ]

def Step.encodeAll : List (String × Step) → List (String × Json)
  | [] => []
  | (name, step) :: rest => (name, step.encode) :: Step.encodeAll rest

def Step.encode : Step → Json
  | ⟨work, included, sub⟩ =>
    Json.ofPairs <|
      work.encode
        ++ NestedWorkflow.encode? "IncludeWorkflow" included
        ++ NestedWorkflow.encode? "SubWorkflow" sub

/-- Writes a nested workflow under a key, if there is one. -/
def NestedWorkflow.encode? (key : String) : Option NestedWorkflow → List (String × Json)
  | none => []
  | some ⟨path, vars, none⟩ =>
    [(key, Json.ofPairs [("Path", .text path), ("Vars", Json.ofMap vars)])]
  | some ⟨path, vars, some workflow⟩ =>
    [(key, Json.ofPairs
      [("Path", .text path), ("Vars", Json.ofMap vars), ("Workflow", workflow.encode)])]

end

end ImageFlow
