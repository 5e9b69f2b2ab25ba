import ImageFlow.Hook.Builtin
import Mathlib.Data.List.Forall2

/-!
# Machine types under the built-in hooks

Every built-in hook may change every instance of a job.  Only the selection of a machine series
changes machine types, and none changes names: what the others do is invisible to
`Workflow.machines`, and the selection moves each machine type to its series.  The statements are
about all instances, at every depth and of both interfaces.
-/

namespace ImageFlow

/-! ## Moving a machine type -/

namespace MachineType

/-- The second machine type is the first one in a series: what follows from the first dash on is
kept, and a type without a dash is kept whole. -/
structure Moved (series old new : String) : Prop where
  dashed : ∀ front shape, old.toList = front ++ '-' :: shape → '-' ∉ front →
    new.toList = series.toList ++ '-' :: shape
  dashless : '-' ∉ old.toList → new = old

/-- The machine type in a series, or the type itself if it has no counterpart. -/
def inSeries (series machineType : String) : String :=
  (inSeries? machineType series).getD machineType

theorem moved_inSeries (series machineType : String) :
    Moved series machineType (inSeries series machineType) := by
  constructor
  · intro front shape hsplit hfront
    have hcut : Text.cutFirst '-' machineType.toList = some (front, shape) :=
      Text.cutFirst_eq_some_iff.mpr ⟨hsplit, hfront⟩
    simp [inSeries, inSeries?, hcut]
  · intro hdashless
    have hcut : Text.cutFirst '-' machineType.toList = none :=
      Text.cutFirst_eq_none_iff.mpr hdashless
    simp [inSeries, inSeries?, hcut]

/-- A machine type with a dash tells the series that it was moved to. -/
theorem Moved.series_eq
    {series other old new : String} (h : Moved series old new) (h' : Moved other old new)
    (hdash : '-' ∈ old.toList) : series = other := by
  obtain ⟨front, shape, hsplit, hfront⟩ := List.eq_append_cons_of_mem hdash
  have hequal := (h.dashed front shape hsplit hfront).symm.trans
    (h'.dashed front shape hsplit hfront)
  exact String.toList_inj.mp (List.append_cancel_right hequal)

end MachineType

/-! ## The machines of a workflow -/

/-- The name and the machine type of an instance. -/
def Instance.machine (i : Instance) : String × String :=
  (i.name, i.machineType)

/-- The names and the machine types of all instances, in visiting order. -/
def Workflow.machines (workflow : Workflow) : List (String × String) :=
  workflow.allInstances.map Instance.machine

/-- Every instance of the second workflow, at every depth, is that of the first one moved to a
series. -/
def Workflow.MovedTo (series : String) (old new : Workflow) : Prop :=
  List.Forall₂
    (fun i j : Instance => j.name = i.name ∧ MachineType.Moved series i.machineType j.machineType)
    old.allInstances new.allInstances

theorem Workflow.movedTo_of_machines_eq
    {series : String} {old new : Workflow}
    (h : new.machines =
      old.machines.map fun machine => (machine.1, MachineType.inSeries series machine.2)) :
    old.MovedTo series new := by
  have hequal : List.Forall₂ (· = ·)
      (old.allInstances.map fun i => (i.name, MachineType.inSeries series i.machineType))
      (new.allInstances.map Instance.machine) := by
    rw [List.forall₂_eq_eq_eq]
    simpa [machines, Instance.machine, Function.comp_def] using h.symm
  rw [List.forall₂_map_left_iff, List.forall₂_map_right_iff] at hequal
  refine hequal.imp ?_
  intro i j hij
  obtain ⟨hname, htype⟩ := Prod.mk.inj hij
  refine ⟨hname.symm, ?_⟩
  rw [← htype]
  exact MachineType.moved_inSeries series i.machineType

/-- One instance whose machine type has a dash tells the series that a workflow was moved to. -/
theorem Workflow.MovedTo.series_eq
    {series other : String} {old new : Workflow}
    (h : old.MovedTo series new) (h' : old.MovedTo other new) {i : Instance}
    (hi : i ∈ old.allInstances) (hdash : '-' ∈ i.machineType.toList) : series = other := by
  obtain ⟨n, hn, rfl⟩ := List.mem_iff_get.mp hi
  have hm : n < new.allInstances.length := h.length_eq ▸ n.isLt
  exact (h.get n.isLt hm).2.series_eq (h'.get n.isLt hm).2 hdash

theorem StepWork.allInstances_of_instances_eq
    {f : Instance → Instance} {old new : StepWork}
    (h : new.instances = old.instances.map (InstanceGroup.map f)) :
    new.allInstances = old.allInstances.map f := by
  rw [← StepWork.allInstances_mapInstances]
  simp only [allInstances, mapInstances, h]

namespace Workflow

/-- A change of every instance, whatever else is changed of the steps, changes the machines one by
one. -/
theorem machines_mapWork
    {g : StepWork → StepWork} {f : Instance → Instance}
    (h : ∀ work, (g work).instances = work.instances.map (InstanceGroup.map f))
    (workflow : Workflow) :
    (workflow.mapWork g).machines = workflow.allInstances.map fun i => (f i).machine := by
  have hwork (work : StepWork) : (g work).allInstances = work.allInstances.map f :=
    StepWork.allInstances_of_instances_eq (h work)
  simp only [machines, allInstances, works_mapWork, List.flatMap_map, hwork, List.map_flatMap,
    List.map_map, Function.comp_def]

theorem machines_mapWork_of_kept
    {g : StepWork → StepWork} (f : Instance → Instance)
    (h : ∀ work, (g work).instances = work.instances.map (InstanceGroup.map f))
    (hkept : ∀ i, (f i).machine = i.machine) (workflow : Workflow) :
    (workflow.mapWork g).machines = workflow.machines := by
  rw [machines_mapWork h]
  simp only [hkept]
  rfl

end Workflow

/-! ## The environment -/

namespace EnvironmentOverlay

section View

variable {α : Type} (view : Job → α)

/-- Installing a client is not seen by what does not see the clients of a job. -/
theorem view_installClient
    (hview : ∀ (job : Job) (clients : ClientSlots), view { job with clients } = view job)
    {γ : Type} (service : Service) (endpoint message : String)
    (build : Job → Except ClientError γ) (address : γ → String)
    (put : γ → ClientSlots → ClientSlots) (job : Job) :
    view (installClient service endpoint message build address put job).value.job = view job := by
  rw [installClient]
  split
  · rfl
  · split
    · rfl
    · exact hview job _

theorem view_andThen
    {step : Job → Logged Preparation} (hstep : ∀ job, view (step job).value.job = view job)
    (prepared : Logged Preparation) :
    view (andThen step prepared).value.job = view prepared.value.job := by
  rw [andThen]
  split
  · rfl
  · exact hstep prepared.value.job

end View

def KeepsWorkflow (step : Job → Logged Preparation) : Prop :=
  ∀ job, (step job).value.job.workflow = job.workflow

theorem keepsWorkflow_installClient
    {γ : Type} (service : Service) (endpoint message : String)
    (build : Job → Except ClientError γ) (address : γ → String)
    (put : γ → ClientSlots → ClientSlots) :
    KeepsWorkflow (installClient service endpoint message build address put) :=
  view_installClient Job.workflow (fun _ _ => rfl) service endpoint message build address put

theorem workflow_andThen
    {step : Job → Logged Preparation} (hstep : KeepsWorkflow step)
    (prepared : Logged Preparation) :
    (andThen step prepared).value.job.workflow = prepared.value.job.workflow :=
  view_andThen Job.workflow hstep prepared

theorem workflow_prepare (files : FileNode) (env : Environment) (job : Job) :
    (prepare files env job).value.job.workflow = overlay env job.workflow := by
  have hlogging : KeepsWorkflow (installLogging files env) :=
    keepsWorkflow_installClient _ _ _ _ _ _
  have hstorage : KeepsWorkflow (installStorage files env) :=
    keepsWorkflow_installClient _ _ _ _ _ _
  have hcompute : KeepsWorkflow (installCompute files env) :=
    keepsWorkflow_installClient _ _ _ _ _ _
  rw [prepare, workflow_andThen hlogging, workflow_andThen hstorage, hcompute]
  rfl

theorem machines_overlay (env : Environment) (workflow : Workflow) :
    (overlay env workflow).machines = workflow.machines := by
  obtain ⟨⟩ := workflow
  rfl

end EnvironmentOverlay

/-! ## All hooks -/

namespace Builtin

def selectsSeries : Builtin → Bool
  | machineSeries _ => true
  | _ => false

variable (files : FileNode)

/-- A hook that selects no series leaves names and machine types as they are. -/
theorem machines_prepare
    {hook : Builtin} (hother : hook.selectsSeries = false) (job : Job) :
    (hook.prepare files job).value.job.workflow.machines = job.workflow.machines := by
  cases hook with
  | environment env =>
      rw [prepare, EnvironmentOverlay.workflow_prepare, EnvironmentOverlay.machines_overlay]
  | labels env =>
      exact Workflow.machines_mapWork_of_kept (ResourceLabels.labelInstance env)
        (fun _ => rfl) (fun _ => rfl) job.workflow
  | network network subnet =>
      simp only [prepare, Logged.quiet, Preparation.ofWorkflow, Job.mapWorkflow,
        NetworkAssignment.apply]
      split
      · rfl
      · exact Workflow.machines_mapWork_of_kept (NetworkAssignment.attachInstance network subnet)
          (fun _ => rfl) (fun _ => rfl) job.workflow
  | encryption key =>
      simp only [prepare, Logged.quiet, Encryption.prepare]
      split
      · rfl
      · rfl
      · next name _ =>
          exact Workflow.machines_mapWork_of_kept (Encryption.encryptInstance ⟨name⟩)
            (fun _ => rfl) (fun _ => rfl) job.workflow
  | nestedVirtualization =>
      exact Workflow.machines_mapWork_of_kept NestedVirtualization.enable
        (fun _ => rfl) (fun _ => rfl) job.workflow
  | machineSeries series => cases hother
  | releaseCheck specified detected => rfl

end Builtin

namespace SeriesFallback

theorem machine_moveInstance (series : String) (i : Instance) :
    (moveInstance series i).value.machine =
      (i.name, MachineType.inSeries series i.machineType) := by
  rw [moveInstance, MachineType.inSeries]
  cases MachineType.inSeries? i.machineType series with
  | none => rfl
  | some machineType => rfl

/-- The selection of a series moves every machine type to the series that it is at. -/
theorem machines_prepare (s : SeriesFallback) (job : Job) :
    (s.prepare job).value.job.workflow.machines =
      job.workflow.machines.map fun machine =>
        (machine.1, MachineType.inSeries s.active machine.2) := by
  have hvisit : (s.prepare job).value.job.workflow =
      job.workflow.mapInstances fun i => (moveInstance s.active i).value := by
    simp [prepare, Workflow.value_visitInstances]
  rw [hvisit, Workflow.mapInstances, Workflow.machines_mapWork (fun _ => rfl)]
  simp only [machine_moveInstance, Workflow.machines, List.map_map, Function.comp_def]
  rfl

end SeriesFallback

end ImageFlow
