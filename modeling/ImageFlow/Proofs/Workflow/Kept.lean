import ImageFlow.Proofs.Json.Kept
import ImageFlow.Workflow.Basic

/-!
# What a workflow document keeps when it is written again

For each record of a workflow document, its fields in the order in which an array gives them, and
what may become of each: texts, truth values and free-form values stay as they are or take their
default, optional parts stay or are left out, and resources, steps and nested workflows keep what
their own records keep.  Instances, disks, images and steps are open: their other members are the
same before and after.
-/

namespace ImageFlow

open Json (FieldRule Always UnlessBlank Required EachItem EachMember KeptRecord KeptOpenRecord)

def EncryptionKey.rules : List FieldRule :=
  [⟨"kmsKeyName", Required (· = ·)⟩]

def AttachedDisk.rules : List FieldRule :=
  [ ⟨"Source", Always (.text "") (· = ·)⟩
  , ⟨"AutoDelete", Always (.bool false) (· = ·)⟩
  , ⟨"DiskEncryptionKey", UnlessBlank .null (KeptRecord EncryptionKey.rules)⟩ ]

def MachineFeatures.rules : List FieldRule :=
  [⟨"EnableNestedVirtualization", Always (.bool false) (· = ·)⟩]

def NetworkInterface.rules : List FieldRule :=
  [ ⟨"Network", UnlessBlank (.text "") (· = ·)⟩
  , ⟨"Subnetwork", UnlessBlank (.text "") (· = ·)⟩ ]

def Instance.rules : List FieldRule :=
  [ ⟨"Name", Always (.text "") (· = ·)⟩
  , ⟨"MachineType", Always (.text "") (· = ·)⟩
  , ⟨"Disks", Always (.array []) (EachItem (KeptRecord AttachedDisk.rules))⟩
  , ⟨"AdvancedMachineFeatures", UnlessBlank .null (KeptRecord MachineFeatures.rules)⟩
  , ⟨"NetworkInterfaces", UnlessBlank (.array []) (EachItem (KeptRecord NetworkInterface.rules))⟩
  , ⟨"Labels", UnlessBlank (.object []) (· = ·)⟩ ]

def Disk.rules : List FieldRule :=
  [ ⟨"Name", Always (.text "") (· = ·)⟩
  , ⟨"Labels", UnlessBlank (.object []) (· = ·)⟩
  , ⟨"DiskEncryptionKey", UnlessBlank .null (KeptRecord EncryptionKey.rules)⟩ ]

def Image.rules : List FieldRule :=
  [ ⟨"Name", Always (.text "") (· = ·)⟩
  , ⟨"Labels", UnlessBlank (.object []) (· = ·)⟩
  , ⟨"ImageEncryptionKey", UnlessBlank .null (KeptRecord EncryptionKey.rules)⟩ ]

def InstanceGroup.rules : List FieldRule :=
  [ ⟨"Instances", Always (.array []) (EachItem (KeptOpenRecord Instance.rules))⟩
  , ⟨"InstancesBeta", Always (.array []) (EachItem (KeptOpenRecord Instance.rules))⟩ ]

section Nested

variable (workflow : Json → Json → Prop)

def NestedWorkflow.rules : List FieldRule :=
  [ ⟨"Path", Always (.text "") (· = ·)⟩
  , ⟨"Vars", Always (.object []) (· = ·)⟩
  , ⟨"Workflow", UnlessBlank .null workflow⟩ ]

def Step.rules : List FieldRule :=
  [ ⟨"CreateInstances", UnlessBlank .null (KeptRecord InstanceGroup.rules)⟩
  , ⟨"CreateDisks", UnlessBlank .null (EachItem (KeptOpenRecord Disk.rules))⟩
  , ⟨"CreateImages", UnlessBlank .null (EachItem (KeptOpenRecord Image.rules))⟩
  , ⟨"IncludeWorkflow", UnlessBlank .null (KeptRecord (NestedWorkflow.rules workflow))⟩
  , ⟨"SubWorkflow", UnlessBlank .null (KeptRecord (NestedWorkflow.rules workflow))⟩ ]

def Workflow.rules : List FieldRule :=
  [ ⟨"Name", Always (.text "") (· = ·)⟩
  , ⟨"Project", Always (.text "") (· = ·)⟩
  , ⟨"Zone", Always (.text "") (· = ·)⟩
  , ⟨"GCSPath", Always (.text "") (· = ·)⟩
  , ⟨"OAuthPath", Always (.text "") (· = ·)⟩
  , ⟨"DefaultTimeout", Always (.text "") (· = ·)⟩
  , ⟨"Vars", Always (.object []) (· = ·)⟩
  , ⟨"Steps", Always (.object []) (EachMember (KeptOpenRecord (Step.rules workflow)))⟩
  , ⟨"Dependencies", Always (.object []) (· = ·)⟩ ]

end Nested

/-- A workflow that is nested less deeply than the number says is written with all that it keeps. -/
def Workflow.KeptWithin : Nat → Json → Json → Prop
  | 0 => fun _ _ => False
  | depth + 1 => KeptRecord (Workflow.rules (Workflow.KeptWithin depth))

/-- A workflow is written with all that it keeps, through all the workflows nested in it. -/
def Workflow.Kept (v v' : Json) : Prop :=
  ∃ depth, Workflow.KeptWithin depth v v'

end ImageFlow
