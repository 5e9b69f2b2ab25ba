import ImageFlow.Proofs.Json.FaithfulRecord
import ImageFlow.Proofs.Workflow.Kept
import ImageFlow.Workflow.Document

/-!
# Resources are read and written faithfully

Keys, attached disks, features, interfaces, instances, disks, images and groups of instances, each
by its fields: how they are read and written, that they are independent, and that they say all
there is about the resource.
-/

namespace ImageFlow

open Decoder (FieldForm Describes KeepsOther Faithful)

/-! ## Members that are looked up -/

namespace Json

variable {α : Type} {key : String}

@[simp]
theorem member?_ofPairs (pairs : List (String × Json)) (key : String) :
    (ofPairs pairs).member? key = (OrderedMap.ofList pairs).get? key := rfl

@[simp]
theorem get?_memberIfSome (name : String) (encode : α → Json) (value : Option α) :
    (OrderedMap.ofList (memberIfSome name encode value)).get? key =
      if key = name then value.map encode else none := by
  cases value <;> simp [memberIfSome]

@[simp]
theorem get?_memberIfAny (name : String) (encode : α → Json) (values : List α) :
    (OrderedMap.ofList (memberIfAny name encode values)).get? key =
      if key = name then (if values.isEmpty then none else some (.array (values.map encode)))
      else none := by
  cases values <;> simp [memberIfAny]

@[simp]
theorem get?_memberIfLabels (name : String) (labels : OrderedMap String) :
    (OrderedMap.ofList (memberIfLabels name labels)).get? key =
      if key = name then (if labels.isEmpty then none else some (ofLabels labels)) else none := by
  by_cases h : labels.isEmpty <;> simp [memberIfLabels, h]

@[simp]
theorem get?_memberIfText (name s : String) :
    (OrderedMap.ofList (memberIfText name s)).get? key =
      if key = name then (if s.isEmpty then none else some (.text s)) else none := by
  by_cases h : s.isEmpty <;> simp [memberIfText, h]

end Json

/-! ## Values that stay as they are -/

theorem faithful_texts : Faithful (Decoder.list Decoder.text) Json.ofTexts (· = ·) :=
  Faithful.text.list.mono fun _ _ => Json.EachItem.eq

theorem faithful_labels : Faithful (Decoder.map Decoder.text) Json.ofLabels (· = ·) :=
  Faithful.text.map.mono fun _ _ => Json.EachMember.eq

/-! ## Records -/

namespace EncryptionKey

def forms : List (FieldForm EncryptionKey) :=
  [.required "kmsKeyName" Decoder.text .text (·.kmsKeyName) fun v _ => ⟨v⟩]

theorem describes : Describes forms ⟨""⟩ (fun _ => ∅) encode rules where
  independent := ⟨by simp [forms], by simp [forms]⟩
  ext := by
    rintro ⟨⟩ ⟨⟩ h _
    simpa [forms] using h
  object _ := ⟨_, rfl⟩
  declared := by simp [forms, encode]
  undeclared := by
    intro key name h
    simp [forms] at h
    simp [encode, h]
  faithful := .cons ⟨rfl, FieldForm.faithful_required .text⟩ .nil

theorem faithful : Faithful decode encode (Json.KeptRecord rules) :=
  .record describes

end EncryptionKey

namespace AttachedDisk

def forms : List (FieldForm AttachedDisk) :=
  [ .always "Source" Decoder.text .text (·.source) fun v d => { d with source := v }
  , .always "AutoDelete" Decoder.bool .bool (·.autoDelete) fun v d => { d with autoDelete := v }
  , .optional "DiskEncryptionKey" EncryptionKey.decode EncryptionKey.encode (·.encryptionKey)
      fun v d => { d with encryptionKey := v } ]

theorem describes : Describes forms {} (fun _ => ∅) encode rules where
  independent := ⟨by simp [forms], by simp [forms, FieldForm.apart_iff]⟩
  ext := by
    rintro ⟨⟩ ⟨⟩ h _
    simpa [forms] using h
  object _ := ⟨_, rfl⟩
  declared := by simp [forms, encode]
  undeclared := by
    intro disk name h
    simp [forms] at h
    simp [encode, h]
  faithful :=
    .cons ⟨rfl, FieldForm.faithful_always .text rfl⟩ <|
    .cons ⟨rfl, FieldForm.faithful_always .bool rfl⟩ <|
    .cons ⟨rfl, FieldForm.faithful_optional EncryptionKey.faithful nofun rfl⟩ .nil

theorem faithful : Faithful decode encode (Json.KeptRecord rules) :=
  .record describes

end AttachedDisk

namespace MachineFeatures

def forms : List (FieldForm MachineFeatures) :=
  [.always "EnableNestedVirtualization" Decoder.bool .bool (·.nestedVirtualization) fun v _ => ⟨v⟩]

theorem describes : Describes forms {} (fun _ => ∅) encode rules where
  independent := ⟨by simp [forms], by simp [forms]⟩
  ext := by
    rintro ⟨⟩ ⟨⟩ h _
    simpa [forms] using h
  object _ := ⟨_, rfl⟩
  declared := by simp [forms, encode]
  undeclared := by
    intro features name h
    simp [forms] at h
    simp [encode, h]
  faithful := .cons ⟨rfl, FieldForm.faithful_always .bool rfl⟩ .nil

theorem faithful : Faithful decode encode (Json.KeptRecord rules) :=
  .record describes

end MachineFeatures

namespace NetworkInterface

def forms : List (FieldForm NetworkInterface) :=
  [ .unlessEmpty "Network" Decoder.text .text (·.isEmpty) (·.network)
      fun v i => { i with network := v }
  , .unlessEmpty "Subnetwork" Decoder.text .text (·.isEmpty) (·.subnetwork)
      fun v i => { i with subnetwork := v } ]

theorem describes : Describes forms {} (fun _ => ∅) encode rules where
  independent := ⟨by simp [forms], by simp [forms, FieldForm.apart_iff]⟩
  ext := by
    rintro ⟨⟩ ⟨⟩ h _
    simpa [forms] using h
  object _ := ⟨_, rfl⟩
  declared := by simp [forms, encode]
  undeclared := by
    intro interface name h
    simp [forms] at h
    simp [encode, h]
  faithful :=
    .cons ⟨rfl, FieldForm.faithful_unlessEmpty .text (by simp) rfl fun _ h => h⟩ <|
    .cons ⟨rfl, FieldForm.faithful_unlessEmpty .text (by simp) rfl fun _ h => h⟩ .nil

theorem faithful : Faithful decode encode (Json.KeptRecord rules) :=
  .record describes

end NetworkInterface

namespace Instance

def forms : List (FieldForm Instance) :=
  [ .always "Name" Decoder.text .text (·.name) fun v i => { i with name := v }
  , .always "MachineType" Decoder.text .text (·.machineType) fun v i => { i with machineType := v }
  , .always "Disks" (Decoder.list AttachedDisk.decode)
      (fun disks => .array (disks.map AttachedDisk.encode)) (·.disks)
      fun v i => { i with disks := v }
  , .optional "AdvancedMachineFeatures" MachineFeatures.decode MachineFeatures.encode (·.features)
      fun v i => { i with features := v }
  , .unlessEmpty "NetworkInterfaces" (Decoder.list NetworkInterface.decode)
      (fun interfaces => .array (interfaces.map NetworkInterface.encode)) (·.isEmpty)
      (·.networkInterfaces) fun v i => { i with networkInterfaces := v }
  , .unlessEmpty "Labels" (Decoder.map Decoder.text) Json.ofLabels (·.isEmpty) (·.labels)
      fun v i => { i with labels := v } ]

theorem describes : Describes forms {} (·.other) encode rules where
  independent := ⟨by simp [forms], by simp [forms, FieldForm.apart_iff]⟩
  ext := by
    rintro ⟨⟩ ⟨⟩ h (rfl : _ = _)
    simpa [forms] using h
  object _ := ⟨_, rfl⟩
  declared := by
    intro i hclear
    simp [forms] at hclear
    simp [forms, encode, hclear]
  undeclared := by
    intro i name h
    simp [forms] at h
    simp [encode, h]
  faithful :=
    .cons ⟨rfl, FieldForm.faithful_always .text rfl⟩ <|
    .cons ⟨rfl, FieldForm.faithful_always .text rfl⟩ <|
    .cons ⟨rfl, FieldForm.faithful_always AttachedDisk.faithful.list rfl⟩ <|
    .cons ⟨rfl, FieldForm.faithful_optional MachineFeatures.faithful nofun rfl⟩ <|
    .cons ⟨rfl, FieldForm.faithful_unlessEmpty NetworkInterface.faithful.list (by simp) rfl
      fun _ h => h.eq_nil⟩ <|
    .cons ⟨rfl, FieldForm.faithful_unlessEmpty faithful_labels (fun _ => OrderedMap.isEmpty_iff) rfl
      fun _ h => h⟩ .nil

theorem keepsOther :
    KeepsOther forms (fun key value i => { i with other := i.other.insert key value })
      (·.other) where
  get_keep := by simp [forms]
  rest_keep _ _ _ := rfl
  rest_put := by simp [forms]

theorem faithful : Faithful decode encode (Json.KeptOpenRecord rules) :=
  .openRecord describes keepsOther rfl

end Instance

namespace Disk

def forms : List (FieldForm Disk) :=
  [ .always "Name" Decoder.text .text (·.name) fun v d => { d with name := v }
  , .unlessEmpty "Labels" (Decoder.map Decoder.text) Json.ofLabels (·.isEmpty) (·.labels)
      fun v d => { d with labels := v }
  , .optional "DiskEncryptionKey" EncryptionKey.decode EncryptionKey.encode (·.encryptionKey)
      fun v d => { d with encryptionKey := v } ]

theorem describes : Describes forms {} (·.other) encode rules where
  independent := ⟨by simp [forms], by simp [forms, FieldForm.apart_iff]⟩
  ext := by
    rintro ⟨⟩ ⟨⟩ h (rfl : _ = _)
    simpa [forms] using h
  object _ := ⟨_, rfl⟩
  declared := by
    intro disk hclear
    simp [forms] at hclear
    simp [forms, encode, hclear]
  undeclared := by
    intro disk name h
    simp [forms] at h
    simp [encode, h]
  faithful :=
    .cons ⟨rfl, FieldForm.faithful_always .text rfl⟩ <|
    .cons ⟨rfl, FieldForm.faithful_unlessEmpty faithful_labels (fun _ => OrderedMap.isEmpty_iff) rfl
      fun _ h => h⟩ <|
    .cons ⟨rfl, FieldForm.faithful_optional EncryptionKey.faithful nofun rfl⟩ .nil

theorem keepsOther :
    KeepsOther forms (fun key value d => { d with other := d.other.insert key value })
      (·.other) where
  get_keep := by simp [forms]
  rest_keep _ _ _ := rfl
  rest_put := by simp [forms]

theorem faithful : Faithful decode encode (Json.KeptOpenRecord rules) :=
  .openRecord describes keepsOther rfl

end Disk

namespace Image

def forms : List (FieldForm Image) :=
  [ .always "Name" Decoder.text .text (·.name) fun v i => { i with name := v }
  , .unlessEmpty "Labels" (Decoder.map Decoder.text) Json.ofLabels (·.isEmpty) (·.labels)
      fun v i => { i with labels := v }
  , .optional "ImageEncryptionKey" EncryptionKey.decode EncryptionKey.encode (·.encryptionKey)
      fun v i => { i with encryptionKey := v } ]

theorem describes : Describes forms {} (·.other) encode rules where
  independent := ⟨by simp [forms], by simp [forms, FieldForm.apart_iff]⟩
  ext := by
    rintro ⟨⟩ ⟨⟩ h (rfl : _ = _)
    simpa [forms] using h
  object _ := ⟨_, rfl⟩
  declared := by
    intro image hclear
    simp [forms] at hclear
    simp [forms, encode, hclear]
  undeclared := by
    intro image name h
    simp [forms] at h
    simp [encode, h]
  faithful :=
    .cons ⟨rfl, FieldForm.faithful_always .text rfl⟩ <|
    .cons ⟨rfl, FieldForm.faithful_unlessEmpty faithful_labels (fun _ => OrderedMap.isEmpty_iff) rfl
      fun _ h => h⟩ <|
    .cons ⟨rfl, FieldForm.faithful_optional EncryptionKey.faithful nofun rfl⟩ .nil

theorem keepsOther :
    KeepsOther forms (fun key value i => { i with other := i.other.insert key value })
      (·.other) where
  get_keep := by simp [forms]
  rest_keep _ _ _ := rfl
  rest_put := by simp [forms]

theorem faithful : Faithful decode encode (Json.KeptOpenRecord rules) :=
  .openRecord describes keepsOther rfl

end Image

namespace InstanceGroup

def forms : List (FieldForm InstanceGroup) :=
  [ .always "Instances" (Decoder.list Instance.decode)
      (fun instances => .array (instances.map Instance.encode)) (·.instances)
      fun v g => { g with instances := v }
  , .always "InstancesBeta" (Decoder.list Instance.decode)
      (fun instances => .array (instances.map Instance.encode)) (·.beta)
      fun v g => { g with beta := v } ]

theorem describes : Describes forms {} (fun _ => ∅) encode rules where
  independent := ⟨by simp [forms], by simp [forms, FieldForm.apart_iff]⟩
  ext := by
    rintro ⟨⟩ ⟨⟩ h _
    simpa [forms] using h
  object _ := ⟨_, rfl⟩
  declared := by simp [forms, encode]
  undeclared := by
    intro group name h
    simp [forms] at h
    simp [encode, h]
  faithful :=
    .cons ⟨rfl, FieldForm.faithful_always Instance.faithful.list rfl⟩ <|
    .cons ⟨rfl, FieldForm.faithful_always Instance.faithful.list rfl⟩ .nil

theorem faithful : Faithful decode encode (Json.KeptRecord rules) :=
  .record describes

end InstanceGroup

end ImageFlow
