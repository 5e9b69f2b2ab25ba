import ImageFlow.Proofs.Hook.MachineTypes
import ImageFlow.Proofs.Workflow.Composition

/-!
# Preparations as changes of attributes

All hooks but the environment prepare a job in one way: they change attributes of the resources that
its steps create, each attribute by itself and at every depth.  An `AttributeChange` says what becomes
of the attributes, and changes are composed attribute by attribute.  `Builtin.change` is the change
that a hook makes, and `Builtin.value_prepare` says that it makes no other; the environment, which
does not look at resources, is seen to go along with every change
(`EnvironmentOverlay.value_prepare_mapWork`).
-/

namespace ImageFlow

/-! ## Changes -/

/-- What becomes of the attributes of resources.  Instances and disks are temporary, images are
not. -/
structure AttributeChange where
  machineType : String → String := id
  features : Option MachineFeatures → Option MachineFeatures := id
  networkInterfaces : List NetworkInterface → List NetworkInterface := id
  temporaryLabels : OrderedMap String → OrderedMap String := id
  imageLabels : OrderedMap String → OrderedMap String := id
  encryptionKey : Option EncryptionKey → Option EncryptionKey := id

namespace AttributeChange

section Resources

variable (change : AttributeChange)

def onAttachedDisk (disk : AttachedDisk) : AttachedDisk :=
  { disk with encryptionKey := change.encryptionKey disk.encryptionKey }

def onInstance (i : Instance) : Instance :=
  { i with
    machineType := change.machineType i.machineType
    disks := i.disks.map change.onAttachedDisk
    features := change.features i.features
    networkInterfaces := change.networkInterfaces i.networkInterfaces
    labels := change.temporaryLabels i.labels }

def onDisk (disk : Disk) : Disk :=
  { disk with
    labels := change.temporaryLabels disk.labels
    encryptionKey := change.encryptionKey disk.encryptionKey }

def onImage (image : Image) : Image :=
  { image with
    labels := change.imageLabels image.labels
    encryptionKey := change.encryptionKey image.encryptionKey }

/-- The step with the attributes of all its resources changed. -/
def onWork (work : StepWork) : StepWork :=
  { work with
    instances := work.instances.map (InstanceGroup.map change.onInstance)
    disks := work.disks.map (List.map change.onDisk)
    images := work.images.map (List.map change.onImage) }

def apply (workflow : Workflow) : Workflow :=
  workflow.mapWork change.onWork

theorem project_apply (workflow : Workflow) :
    (change.apply workflow).project = workflow.project :=
  workflow.project_mapWork change.onWork

end Resources

/-- One change after another. -/
def after (later earlier : AttributeChange) : AttributeChange where
  machineType := later.machineType ∘ earlier.machineType
  features := later.features ∘ earlier.features
  networkInterfaces := later.networkInterfaces ∘ earlier.networkInterfaces
  temporaryLabels := later.temporaryLabels ∘ earlier.temporaryLabels
  imageLabels := later.imageLabels ∘ earlier.imageLabels
  encryptionKey := later.encryptionKey ∘ earlier.encryptionKey

section After

variable (later earlier : AttributeChange)

theorem onInstance_after :
    (later.after earlier).onInstance = later.onInstance ∘ earlier.onInstance := by
  funext i
  have hdisks : i.disks.map (later.after earlier).onAttachedDisk =
      (i.disks.map earlier.onAttachedDisk).map later.onAttachedDisk := by
    rw [List.map_map]
    rfl
  rw [onInstance, hdisks]
  rfl

theorem onWork_after : (later.after earlier).onWork = later.onWork ∘ earlier.onWork := by
  funext work
  have hdisk : (later.after earlier).onDisk = later.onDisk ∘ earlier.onDisk := rfl
  have himage : (later.after earlier).onImage = later.onImage ∘ earlier.onImage := rfl
  simp [onWork, onInstance_after, InstanceGroup.map_comp, hdisk, himage]

/-- Two changes one after the other are one change. -/
theorem apply_apply (workflow : Workflow) :
    later.apply (earlier.apply workflow) = (later.after earlier).apply workflow := by
  rw [apply, apply, Workflow.mapWork_mapWork, ← onWork_after]
  rfl

end After

/-- A step is changed by functions of its resources that change the attributes in this way. -/
theorem onWork_eq
    {change : AttributeChange} {f : Instance → Instance} {g : Disk → Disk} {k : Image → Image}
    (hf : change.onInstance = f) (hg : change.onDisk = g) (hk : change.onImage = k) :
    change.onWork = fun work =>
      { work with
        instances := work.instances.map (InstanceGroup.map f)
        disks := work.disks.map (List.map g)
        images := work.images.map (List.map k) } := by
  rw [← hf, ← hg, ← hk]
  rfl

theorem onWork_eq_mapInstances
    {change : AttributeChange} {f : Instance → Instance}
    (hf : change.onInstance = f) (hg : change.onDisk = id) (hk : change.onImage = id) :
    change.onWork = StepWork.mapInstances f := by
  rw [onWork_eq hf hg hk]
  funext work
  simp [StepWork.mapInstances]

/-- A change keeps the disks attached to an instance if it keeps their keys. -/
theorem map_onAttachedDisk
    {change : AttributeChange} (h : change.encryptionKey = id) (disks : List AttachedDisk) :
    disks.map change.onAttachedDisk = disks := by
  have hdisk : change.onAttachedDisk = id := by
    funext disk
    simp [onAttachedDisk, h]
  rw [hdisk, List.map_id]

/-- The change of nothing. -/
theorem apply_none (workflow : Workflow) : ({} : AttributeChange).apply workflow = workflow := by
  have hinstance : ({} : AttributeChange).onInstance = id := by
    funext i
    simp [onInstance, map_onAttachedDisk]
  rw [apply, onWork_eq_mapInstances hinstance rfl rfl, StepWork.mapInstances_id,
    Workflow.mapWork_id]

end AttributeChange

/-! ## What the hooks change -/

/-- The key that a request names in a project, if it names one. -/
def Encryption.key? (request : KeyRequest) (project : String) : Option EncryptionKey :=
  match request.name project with
  | .ok (some name) => some ⟨name⟩
  | _ => none

/-- What a built-in hook is concerned with, its configuration and its state apart. -/
inductive Concern where
  | environment
  | labels
  | network
  | encryption
  | nestedVirtualization
  | machineSeries
  | releaseCheck
  deriving DecidableEq

namespace Builtin

/-- The concern of a hook. -/
def concern : Builtin → Concern
  | environment _ => .environment
  | labels _ => .labels
  | network .. => .network
  | encryption _ => .encryption
  | nestedVirtualization => .nestedVirtualization
  | machineSeries _ => .machineSeries
  | releaseCheck .. => .releaseCheck

theorem exists_eq_environment {hook : Builtin} (h : hook.concern = .environment) :
    ∃ env, hook = environment env := by
  cases hook with
  | environment env => exact ⟨env, rfl⟩
  | _ => cases h

/-- What a hook changes of the resources of a workflow in this project.  Only keys depend on the
project. -/
def change (project : String) : Builtin → AttributeChange
  | labels env =>
    { temporaryLabels := (ResourceLabels.labels env (ResourceLabels.temporaryKey env)).overlay
      imageLabels := (ResourceLabels.labels env (ResourceLabels.imageKey env)).overlay }
  | network net subnet =>
    { networkInterfaces :=
        if net.isEmpty ∧ subnet.isEmpty then id else NetworkAssignment.attachFirst net subnet }
  | encryption request => { encryptionKey := (Encryption.key? request project).or }
  | nestedVirtualization =>
    { features := fun own => some { own.getD {} with nestedVirtualization := true } }
  | machineSeries s => { machineType := MachineType.inSeries s.active }
  | environment _ | releaseCheck .. => {}

/-- Why a hook cannot prepare a workflow in this project, unless it sets an environment. -/
def refusal? (project : String) : Builtin → Option HookError
  | encryption request =>
    match request.name project with
    | .error problem => some (.invalidKey problem)
    | .ok _ => none
  | _ => none

theorem change_eq_of_keyless {hook : Builtin} (hkeyless : hook.concern ≠ .encryption)
    (project other : String) : hook.change project = hook.change other := by
  cases hook with
  | encryption request => exact absurd rfl hkeyless
  | _ => rfl

theorem refusal?_eq_of_keyless {hook : Builtin} (hkeyless : hook.concern ≠ .encryption)
    (project other : String) : hook.refusal? project = hook.refusal? other := by
  cases hook with
  | encryption request => exact absurd rfl hkeyless
  | _ => rfl

section OnWork

open AttributeChange

variable (project : String)

theorem onWork_change_labels (env : Environment) :
    ((labels env).change project).onWork = ResourceLabels.labelWork env := by
  have hinstance : ((labels env).change project).onInstance = ResourceLabels.labelInstance env := by
    funext i
    rw [onInstance, map_onAttachedDisk rfl]
    rfl
  exact onWork_eq hinstance rfl rfl

theorem onWork_change_network {net subnet : String} (h : ¬(net.isEmpty ∧ subnet.isEmpty)) :
    ((network net subnet).change project).onWork =
      StepWork.mapInstances (NetworkAssignment.attachInstance net subnet) := by
  have hinstance : ((network net subnet).change project).onInstance =
      NetworkAssignment.attachInstance net subnet := by
    funext i
    rw [onInstance, map_onAttachedDisk rfl]
    simp only [change, if_neg h]
    rfl
  exact onWork_eq_mapInstances hinstance rfl rfl

theorem onWork_change_encryption
    {request : KeyRequest} {key : EncryptionKey} (h : Encryption.key? request project = some key) :
    ((encryption request).change project).onWork = Encryption.encryptWork key := by
  have hchange : (encryption request).change project = { encryptionKey := fun _ => some key } := by
    simp only [change, h]
    rfl
  rw [hchange]
  rfl

theorem onWork_change_nestedVirtualization :
    (nestedVirtualization.change project).onWork =
      StepWork.mapInstances NestedVirtualization.enable := by
  have hinstance : (nestedVirtualization.change project).onInstance =
      NestedVirtualization.enable := by
    funext i
    rw [onInstance, map_onAttachedDisk rfl]
    rfl
  exact onWork_eq_mapInstances hinstance rfl rfl

theorem onWork_change_machineSeries (s : SeriesFallback) :
    ((machineSeries s).change project).onWork =
      StepWork.mapInstances fun i => (SeriesFallback.moveInstance s.active i).value := by
  have hinstance : ((machineSeries s).change project).onInstance =
      fun i => (SeriesFallback.moveInstance s.active i).value := by
    funext i
    rw [onInstance, map_onAttachedDisk rfl, SeriesFallback.moveInstance]
    simp only [change, MachineType.inSeries]
    cases MachineType.inSeries? i.machineType s.active with
    | none => rfl
    | some machineType => rfl
  exact onWork_eq_mapInstances hinstance rfl rfl

end OnWork

theorem apply_change_encryption (request : KeyRequest) (project : String) (workflow : Workflow) :
    ((encryption request).change project).apply workflow =
      match Encryption.key? request project with
      | some key => Encryption.apply key workflow
      | none => workflow := by
  cases hkey : Encryption.key? request project with
  | none =>
      have hnone : (encryption request).change project = {} := by
        simp only [change, hkey]
        rfl
      rw [hnone, AttributeChange.apply_none]
  | some key =>
      rw [AttributeChange.apply, onWork_change_encryption project hkey]
      rfl

theorem prepare_encryption (request : KeyRequest) (job : Job) :
    Encryption.prepare request job =
      { job := job.mapWorkflow ((encryption request).change job.workflow.project).apply
        failure := (encryption request).refusal? job.workflow.project } := by
  rw [Job.mapWorkflow, apply_change_encryption, Encryption.key?, Encryption.prepare]
  simp only [refusal?]
  cases request.name job.workflow.project with
  | error problem => rfl
  | ok name? =>
      cases name? with
      | none => rfl
      | some name => rfl

theorem apply_change_network (net subnet project : String) (workflow : Workflow) :
    ((network net subnet).change project).apply workflow =
      NetworkAssignment.apply net subnet workflow := by
  by_cases hempty : net.isEmpty ∧ subnet.isEmpty
  · have hnone : (network net subnet).change project = {} := by
      simp only [change, if_pos hempty]
    rw [hnone, AttributeChange.apply_none, NetworkAssignment.apply, if_pos hempty]
  · rw [AttributeChange.apply, onWork_change_network project hempty, NetworkAssignment.apply,
      if_neg hempty]
    rfl

section Prepare

variable (files : FileNode)

/-- A hook that is not the environment prepares a job by its change of attributes, and by nothing
else. -/
theorem value_prepare {hook : Builtin} (hother : hook.concern ≠ .environment) (job : Job) :
    (hook.prepare files job).value =
      { job := job.mapWorkflow (hook.change job.workflow.project).apply
        failure := hook.refusal? job.workflow.project } := by
  cases hook with
  | environment env => exact absurd rfl hother
  | labels env =>
      rw [Job.mapWorkflow, AttributeChange.apply, onWork_change_labels]
      rfl
  | network net subnet =>
      rw [Job.mapWorkflow, apply_change_network]
      rfl
  | encryption request => exact prepare_encryption request job
  | nestedVirtualization =>
      rw [Job.mapWorkflow, AttributeChange.apply, onWork_change_nestedVirtualization]
      rfl
  | machineSeries s =>
      rw [Job.mapWorkflow, AttributeChange.apply, onWork_change_machineSeries, prepare,
        SeriesFallback.prepare]
      simp only [Logged.value_bind, Logged.value_pure, Workflow.value_visitInstances]
      rfl
  | releaseCheck specified detected =>
      have hnone : (releaseCheck specified detected).change job.workflow.project = {} := rfl
      rw [Job.mapWorkflow, hnone, AttributeChange.apply_none]
      rfl

/-- Two such hooks one after the other make one change. -/
theorem value_prepare_prepare
    {first second : Builtin} (hfirst : first.concern ≠ .environment)
    (hsecond : second.concern ≠ .environment) (job : Job) :
    (second.prepare files (first.prepare files job).value.job).value =
      { job := job.mapWorkflow ((second.change job.workflow.project).after
          (first.change job.workflow.project)).apply
        failure := second.refusal? job.workflow.project } := by
  have hproject (change : AttributeChange) :
      (job.mapWorkflow change.apply).workflow.project = job.workflow.project :=
    change.project_apply job.workflow
  rw [value_prepare files hfirst, value_prepare files hsecond, hproject]
  simp only [Job.mapWorkflow, AttributeChange.apply_apply]

end Prepare

end Builtin

/-! ## The environment -/

/-- The preparation with its job changed. -/
def Preparation.mapJob (f : Job → Job) (preparation : Preparation) : Preparation :=
  { preparation with job := f preparation.job }

namespace EnvironmentOverlay

/-- A step does the same to a changed job, and leaves the change in it. -/
def GoesWith (f : Job → Job) (step : Job → Logged Preparation) : Prop :=
  ∀ job, (step (f job)).value = (step job).value.mapJob f

theorem goesWith_installClient
    (f : Job → Job) {γ : Type} (service : Service) (endpoint message : String)
    {build : Job → Except ClientError γ} (hbuild : ∀ job, build (f job) = build job)
    (address : γ → String) {put : γ → ClientSlots → ClientSlots}
    (hput : ∀ client job,
      { f job with clients := put client (f job).clients } =
        f { job with clients := put client job.clients }) :
    GoesWith f (installClient service endpoint message build address put) := by
  intro job
  simp only [installClient, hbuild]
  split
  · rfl
  · split
    · rfl
    · next client _ => exact congrArg (Preparation.mk · none) (hput client job)

theorem goesWith_andThen
    {f : Job → Job} {step : Job → Logged Preparation} (hstep : GoesWith f step)
    {first second : Logged Preparation} (h : second.value = first.value.mapJob f) :
    (andThen step second).value = (andThen step first).value.mapJob f := by
  have hfailure : second.value.failure = first.value.failure := by
    rw [h]
    rfl
  rw [andThen, andThen, hfailure]
  split
  · exact h
  · rw [h]
    exact hstep first.value.job

/-- The environment is laid over a changed workflow as over the unchanged one: it does not look at
the resources that steps create. -/
theorem value_prepare_mapWork
    (files : FileNode) (env : Environment) (f : StepWork → StepWork) (job : Job) :
    (prepare files env (job.mapWorkflow (Workflow.mapWork f))).value =
      (prepare files env job).value.mapJob (Job.mapWorkflow (Workflow.mapWork f)) := by
  have hlogging : GoesWith (Job.mapWorkflow (Workflow.mapWork f)) (installLogging files env) := by
    refine goesWith_installClient _ _ _ _ ?_ _ (fun _ _ => rfl)
    intro job
    rw [Job.mapWorkflow, Workflow.project_mapWork]
  have hstorage : GoesWith (Job.mapWorkflow (Workflow.mapWork f)) (installStorage files env) :=
    goesWith_installClient (Job.mapWorkflow _) _ _ _ (fun _ => rfl) _ (fun _ _ => rfl)
  have hcompute : GoesWith (Job.mapWorkflow (Workflow.mapWork f)) (installCompute files env) :=
    goesWith_installClient (Job.mapWorkflow _) _ _ _ (fun _ => rfl) _ (fun _ _ => rfl)
  have hoverlay : overlay env (job.workflow.mapWork f) = (overlay env job.workflow).mapWork f := by
    obtain ⟨⟨⟩⟩ := job
    rfl
  have hstart : (job.mapWorkflow (Workflow.mapWork f)).mapWorkflow (overlay env) =
      (job.mapWorkflow (overlay env)).mapWorkflow (Workflow.mapWork f) := by
    simp only [Job.mapWorkflow, hoverlay]
  rw [prepare, hstart]
  exact goesWith_andThen hlogging (goesWith_andThen hstorage (hcompute _))

end EnvironmentOverlay

end ImageFlow
