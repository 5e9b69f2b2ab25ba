import ImageFlow.Hook.Builtin
import ImageFlow.Proofs.Hook.MachineTypes
import ImageFlow.Proofs.Workflow.Rework

/-!
# What the built-in hooks leave alone

A built-in hook that prepares a job keeps the shape of its workflow: the names and the kinds of
steps, the workflows that they bring in, and which resources they create, at every depth.  Beyond
that each hook has one concern, and touches nothing else.  What a hook may touch is said by putting
it back: a resource is changed in its labels only if it is the old one once it has the old labels
again.
-/

namespace ImageFlow

/-! ## The shape of a workflow -/

/-- The attached disks have the same source, and are deleted with their instances or not. -/
structure AttachedDisk.SameShape (before after : AttachedDisk) : Prop where
  source_eq : after.source = before.source
  autoDelete_eq : after.autoDelete = before.autoDelete

/-- The instances have the same name, the same disks attached in the same order, the same network
interfaces after the first, and the same opaque attributes. -/
structure Instance.SameShape (before after : Instance) : Prop where
  name_eq : after.name = before.name
  disks : List.Forall₂ AttachedDisk.SameShape before.disks after.disks
  interfaces_eq : after.networkInterfaces.tail = before.networkInterfaces.tail
  other_eq : after.other = before.other

/-- The disks have the same name and the same opaque attributes. -/
structure Disk.SameShape (before after : Disk) : Prop where
  name_eq : after.name = before.name
  other_eq : after.other = before.other

/-- The images have the same name and the same opaque attributes. -/
structure Image.SameShape (before after : Image) : Prop where
  name_eq : after.name = before.name
  other_eq : after.other = before.other

/-- Changes of resources that keep their shape. -/
def Allowance.shape : Allowance :=
  ⟨Instance.SameShape, Disk.SameShape, Image.SameShape⟩

/-- The workflow with where it runs, and for how long, taken from another one. -/
def Workflow.withSettings (workflow other : Workflow) : Workflow :=
  { workflow with
    project := other.project
    zone := other.zone
    gcsPath := other.gcsPath
    oauthPath := other.oauthPath
    defaultTimeout := other.defaultTimeout }

/-- The workflows have the same shape.  They may differ in the settings of the top level, while
nested workflows have the same ones, and in such changes of the resources of steps that keep the
shape of these. -/
def Workflow.SameShape (before after : Workflow) : Prop :=
  (before.withSettings after).Reworked (StepWork.Within .shape) after

theorem Workflow.Reworked.withSettings_eq
    {R : StepWork → StepWork → Prop} {before after : Workflow} (h : before.Reworked R after) :
    before.withSettings after = before := by
  cases h
  rfl

theorem Workflow.withSettings_comm
    {before after : Workflow} (h : after.withSettings before = before) :
    before.withSettings after = after := by
  obtain ⟨⟩ := before
  obtain ⟨⟩ := after
  cases h
  rfl

/-! ## What the hooks may touch -/

namespace Allowance

/-- Labels may change. -/
def labels : Allowance where
  instances i j := { j with labels := i.labels } = i
  disks d e := { e with labels := d.labels } = d
  images i j := { j with labels := i.labels } = i

/-- The first network interface of an instance may change, and come into being. -/
def firstInterface : Allowance :=
  .onInstances fun i j =>
    { j with networkInterfaces := i.networkInterfaces } = i ∧
      j.networkInterfaces.tail = i.networkInterfaces.tail ∧
      i.networkInterfaces.length ≤ j.networkInterfaces.length

/-- Encryption keys may change, those of attached disks among them. -/
def encryptionKeys : Allowance where
  instances i j :=
    { j with disks := i.disks } = i ∧
      List.Forall₂
        (fun d e : AttachedDisk => { e with encryptionKey := d.encryptionKey } = d)
        i.disks j.disks
  disks d e := { e with encryptionKey := d.encryptionKey } = d
  images i j := { j with encryptionKey := i.encryptionKey } = i

def features : Allowance :=
  .onInstances fun i j => { j with features := i.features } = i

def machineTypes : Allowance :=
  .onInstances fun i j => { j with machineType := i.machineType } = i

end Allowance

/-- The jobs differ only in resources that their steps create, and in these only as it is
allowed. -/
structure Job.Within (allowed : Allowance) (before after : Job) : Prop where
  workflow : before.workflow.Reworked (StepWork.Within allowed) after.workflow
  clients_eq : after.clients = before.clients
  outputs_eq : after.outputs = before.outputs

/-- All that a hook may do to a job: the environment changes the settings of the top level and the
clients, the comparison of releases changes nothing, and each of the others changes one attribute of
resources. -/
def Builtin.Touches : Builtin → Job → Job → Prop
  | environment _, before, after =>
    after.workflow.withSettings before.workflow = before.workflow ∧ after.outputs = before.outputs
  | labels _, before, after => before.Within .labels after
  | network .., before, after => before.Within .firstInterface after
  | encryption _, before, after => before.Within .encryptionKeys after
  | nestedVirtualization, before, after => before.Within .features after
  | machineSeries _, before, after => before.Within .machineTypes after
  | releaseCheck .., before, after => after = before

/-! ## Each concern keeps the shape -/

theorem Instance.sameShape_of_disks_eq
    {before after : Instance} (hname : after.name = before.name)
    (hdisks : after.disks = before.disks)
    (hinterfaces : after.networkInterfaces.tail = before.networkInterfaces.tail)
    (hother : after.other = before.other) : before.SameShape after where
  name_eq := hname
  disks := by
    rw [hdisks]
    exact List.forall₂_same.mpr fun _ _ => ⟨rfl, rfl⟩
  interfaces_eq := hinterfaces
  other_eq := hother

namespace Allowance

theorem included_shape_onInstances
    {R : Instance → Instance → Prop} (h : ∀ i j, R i j → i.SameShape j) :
    (onInstances R).Included shape where
  instances := h
  disks := by
    rintro d _ rfl
    exact ⟨rfl, rfl⟩
  images := by
    rintro i _ rfl
    exact ⟨rfl, rfl⟩

theorem included_shape_labels : labels.Included shape where
  instances := by
    -- putting back one attribute of a resource identifies all its other ones
    rintro ⟨⟩ ⟨⟩ ⟨⟩
    exact Instance.sameShape_of_disks_eq rfl rfl rfl rfl
  disks := by
    rintro ⟨⟩ ⟨⟩ ⟨⟩
    exact ⟨rfl, rfl⟩
  images := by
    rintro ⟨⟩ ⟨⟩ ⟨⟩
    exact ⟨rfl, rfl⟩

theorem included_shape_firstInterface : firstInterface.Included shape := by
  apply included_shape_onInstances
  rintro ⟨⟩ ⟨⟩ ⟨⟨⟩, htail, -⟩
  exact Instance.sameShape_of_disks_eq rfl rfl htail rfl

theorem included_shape_encryptionKeys : encryptionKeys.Included shape where
  instances := by
    rintro ⟨⟩ ⟨⟩ ⟨⟨⟩, hdisks⟩
    refine ⟨rfl, ?_, rfl, rfl⟩
    refine hdisks.imp ?_
    rintro ⟨⟩ ⟨⟩ ⟨⟩
    exact ⟨rfl, rfl⟩
  disks := by
    rintro ⟨⟩ ⟨⟩ ⟨⟩
    exact ⟨rfl, rfl⟩
  images := by
    rintro ⟨⟩ ⟨⟩ ⟨⟩
    exact ⟨rfl, rfl⟩

theorem included_shape_features : features.Included shape := by
  apply included_shape_onInstances
  rintro ⟨⟩ ⟨⟩ ⟨⟩
  exact Instance.sameShape_of_disks_eq rfl rfl rfl rfl

theorem included_shape_machineTypes : machineTypes.Included shape := by
  apply included_shape_onInstances
  rintro ⟨⟩ ⟨⟩ ⟨⟩
  exact Instance.sameShape_of_disks_eq rfl rfl rfl rfl

theorem reflexive_shape : shape.Reflexive where
  instances _ := Instance.sameShape_of_disks_eq rfl rfl rfl rfl
  disks _ := ⟨rfl, rfl⟩
  images _ := ⟨rfl, rfl⟩

theorem reflexive_firstInterface : firstInterface.Reflexive where
  instances _ := ⟨rfl, rfl, Nat.le_refl _⟩
  disks _ := rfl
  images _ := rfl

theorem reflexive_encryptionKeys : encryptionKeys.Reflexive where
  instances _ := ⟨rfl, List.forall₂_same.mpr fun _ _ => rfl⟩
  disks _ := rfl
  images _ := rfl

end Allowance

/-- A workflow reworked by leaving every step as it is. -/
theorem Workflow.within_refl {allowed : Allowance} (h : allowed.Reflexive) (workflow : Workflow) :
    workflow.Reworked (StepWork.Within allowed) workflow :=
  Workflow.reworked_refl (StepWork.within_refl h) workflow

theorem Workflow.sameShape_refl (workflow : Workflow) : workflow.SameShape workflow := by
  obtain ⟨⟩ := workflow
  exact Workflow.within_refl Allowance.reflexive_shape _

theorem Job.Within.sameShape
    {allowed : Allowance} (hallowed : allowed.Included .shape) {before after : Job}
    (h : before.Within allowed after) : before.workflow.SameShape after.workflow := by
  rw [Workflow.SameShape, h.workflow.withSettings_eq]
  exact h.workflow.mono fun _ _ hwork => hwork.mono hallowed

/-- A hook that touches nothing beyond its concern keeps the shape of the workflow. -/
theorem Builtin.Touches.sameShape
    {hook : Builtin} {before after : Job} (h : hook.Touches before after) :
    before.workflow.SameShape after.workflow := by
  cases hook with
  | environment env =>
      rw [Workflow.SameShape, Workflow.withSettings_comm h.1]
      exact Workflow.within_refl Allowance.reflexive_shape after.workflow
  | labels env => exact Job.Within.sameShape Allowance.included_shape_labels h
  | network network subnet => exact Job.Within.sameShape Allowance.included_shape_firstInterface h
  | encryption key => exact Job.Within.sameShape Allowance.included_shape_encryptionKeys h
  | nestedVirtualization => exact Job.Within.sameShape Allowance.included_shape_features h
  | machineSeries series => exact Job.Within.sameShape Allowance.included_shape_machineTypes h
  | releaseCheck specified detected =>
      obtain rfl : after = before := h
      exact Workflow.sameShape_refl after.workflow

/-! ## Each hook keeps to its concern -/

theorem Job.within_mapWork
    {allowed : Allowance} {f : StepWork → StepWork}
    (h : ∀ work : StepWork, work.Within allowed (f work))
    (job : Job) : job.Within allowed (job.mapWorkflow (Workflow.mapWork f)) :=
  ⟨Workflow.reworked_mapWork h job.workflow, rfl, rfl⟩

namespace EnvironmentOverlay

theorem outputs_prepare (files : FileNode) (env : Environment) (job : Job) :
    (prepare files env job).value.job.outputs = job.outputs := by
  have hlogging (job : Job) : (installLogging files env job).value.job.outputs = job.outputs :=
    view_installClient Job.outputs (fun _ _ => rfl) _ _ _ _ _ _ job
  have hstorage (job : Job) : (installStorage files env job).value.job.outputs = job.outputs :=
    view_installClient Job.outputs (fun _ _ => rfl) _ _ _ _ _ _ job
  have hcompute (job : Job) : (installCompute files env job).value.job.outputs = job.outputs :=
    view_installClient Job.outputs (fun _ _ => rfl) _ _ _ _ _ _ job
  rw [prepare, view_andThen Job.outputs hlogging, view_andThen Job.outputs hstorage, hcompute]
  rfl

theorem withSettings_overlay (env : Environment) (workflow : Workflow) :
    (overlay env workflow).withSettings workflow = workflow := by
  obtain ⟨⟩ := workflow
  rfl

end EnvironmentOverlay

theorem ResourceLabels.within_labelWork (env : Environment) (work : StepWork) :
    work.Within .labels (labelWork env work) :=
  StepWork.within_of_map (fun _ => rfl) (fun _ => rfl) (fun _ => rfl) work

theorem Encryption.within_encryptWork (key : EncryptionKey) (work : StepWork) :
    work.Within .encryptionKeys (encryptWork key work) := by
  have hinstance (i : Instance) :
      Allowance.encryptionKeys.instances i (encryptInstance key i) := by
    refine ⟨rfl, ?_⟩
    apply forall₂_map_right
    intro disk
    rfl
  have hdisk (disk : Disk) :
      Allowance.encryptionKeys.disks disk { disk with encryptionKey := some key } := rfl
  have himage (image : Image) :
      Allowance.encryptionKeys.images image { image with encryptionKey := some key } := rfl
  exact StepWork.within_of_map hinstance hdisk himage work

theorem NetworkAssignment.attachInstance_allowed (network subnet : String) (i : Instance) :
    Allowance.firstInterface.instances i (attachInstance network subnet i) := by
  refine ⟨rfl, ?_, ?_⟩
  · rw [attachInstance]
    cases i.networkInterfaces with
    | nil => rfl
    | cons first rest => rfl
  · rw [attachInstance]
    cases i.networkInterfaces with
    | nil => exact Nat.zero_le _
    | cons first rest => exact Nat.le_refl _

theorem NetworkAssignment.reworked_apply (network subnet : String) (workflow : Workflow) :
    workflow.Reworked (StepWork.Within .firstInterface) (apply network subnet workflow) := by
  rw [apply]
  split
  · exact Workflow.within_refl Allowance.reflexive_firstInterface workflow
  · exact Workflow.reworked_mapWork
      (StepWork.within_mapInstances (attachInstance_allowed network subnet)) workflow

theorem SeriesFallback.moveInstance_allowed (series : String) (i : Instance) :
    Allowance.machineTypes.instances i (moveInstance series i).value := by
  rw [moveInstance]
  split
  · rfl
  · rfl

theorem SeriesFallback.job_prepare (s : SeriesFallback) (job : Job) :
    (s.prepare job).value.job =
      job.mapWorkflow (Workflow.mapInstances fun i => (moveInstance s.active i).value) := by
  simp [prepare, Workflow.value_visitInstances, Job.mapWorkflow]

namespace Builtin

variable (files : FileNode)

/-- A hook touches nothing beyond its concern, whether it can prepare the job or not. -/
theorem touches_prepare (hook : Builtin) (job : Job) :
    hook.Touches job (hook.prepare files job).value.job := by
  cases hook with
  | environment env =>
      refine ⟨?_, EnvironmentOverlay.outputs_prepare files env job⟩
      rw [prepare, EnvironmentOverlay.workflow_prepare]
      exact EnvironmentOverlay.withSettings_overlay env job.workflow
  | labels env => exact Job.within_mapWork (ResourceLabels.within_labelWork env) job
  | network network subnet =>
      exact ⟨NetworkAssignment.reworked_apply network subnet job.workflow, rfl, rfl⟩
  | encryption key =>
      simp only [prepare, Logged.quiet, Encryption.prepare]
      split
      · exact ⟨Workflow.within_refl Allowance.reflexive_encryptionKeys job.workflow, rfl, rfl⟩
      · exact ⟨Workflow.within_refl Allowance.reflexive_encryptionKeys job.workflow, rfl, rfl⟩
      · exact Job.within_mapWork (Encryption.within_encryptWork _) job
  | nestedVirtualization =>
      have henabled (i : Instance) :
          Allowance.features.instances i (NestedVirtualization.enable i) := rfl
      exact Job.within_mapWork (StepWork.within_mapInstances henabled) job
  | machineSeries series =>
      have hmoved := StepWork.within_mapInstances (SeriesFallback.moveInstance_allowed series.active)
      rw [prepare, SeriesFallback.job_prepare]
      exact Job.within_mapWork hmoved job
  | releaseCheck specified detected => rfl

/-- A hook keeps the shape of the workflow that it prepares, at every depth, and touches nothing
beyond its own concern, whether it can prepare the job or not. -/
theorem prepare_keeps_shape (hook : Builtin) (job : Job) :
    let prepared := (hook.prepare files job).value
    job.workflow.SameShape prepared.job.workflow ∧ hook.Touches job prepared.job := by
  intro prepared
  have htouches : hook.Touches job prepared.job := touches_prepare files hook job
  exact ⟨htouches.sameShape, htouches⟩

end Builtin

end ImageFlow
