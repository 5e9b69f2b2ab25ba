import ImageFlow.Proofs.Hook.Commutation
import ImageFlow.Proofs.Hook.Frame

/-!
# The interfaces of prepared instances

What the names of a network and a subnetwork make of the interfaces of an instance is said by cases,
without the hook: nothing if neither is given, a new interface if there is none, and else a change
of the first one.  Every instance is prepared in this way, at every depth and in both lists of a
step, and enabling nested virtualization before or after it comes to the same.
-/

namespace ImageFlow

/-! ## Interfaces -/

/-- The interface has the network and the subnetwork that are given, and keeps its own for one that
is not. -/
structure NetworkInterface.AttachedTo (network subnet : String) (before after : NetworkInterface) :
    Prop where
  network_eq : after.network = if network = "" then before.network else network
  subnetwork_eq : after.subnetwork = if subnet = "" then before.subnetwork else subnet

/-- What becomes of the interfaces of an instance. -/
inductive InterfacesAttached (network subnet : String) :
    List NetworkInterface → List NetworkInterface → Prop where
  /-- Nothing is given. -/
  | untouched {interfaces : List NetworkInterface} (hnetwork : network = "")
      (hsubnet : subnet = "") : InterfacesAttached network subnet interfaces interfaces
  | created {first : NetworkInterface} (hgiven : network ≠ "" ∨ subnet ≠ "")
      (hfirst : NetworkInterface.AttachedTo network subnet {} first) :
      InterfacesAttached network subnet [] [first]
  | attached {before after : NetworkInterface} {rest : List NetworkInterface}
      (hgiven : network ≠ "" ∨ subnet ≠ "")
      (hfirst : before.AttachedTo network subnet after) :
      InterfacesAttached network subnet (before :: rest) (after :: rest)

theorem NetworkAssignment.attachedTo_attach (network subnet : String)
    (interface : NetworkInterface) :
    interface.AttachedTo network subnet (attach network subnet interface) where
  network_eq := by simp [attach]
  subnetwork_eq := by simp [attach]

namespace Instance

/-- The interfaces of the instance are attached, and nothing else about it is changed. -/
structure Attached (network subnet : String) (before after : Instance) : Prop where
  interfaces : InterfacesAttached network subnet before.networkInterfaces after.networkInterfaces
  others_kept : { after with networkInterfaces := before.networkInterfaces } = before

/-- The interfaces of the instance are attached, nested virtualization is enabled, and nothing else
about it is changed. -/
structure AttachedAndVirtualized (network subnet : String) (before after : Instance) : Prop where
  interfaces : InterfacesAttached network subnet before.networkInterfaces after.networkInterfaces
  virtualized : after.features = some { nestedVirtualization := true }
  others_kept :
    { after with
      networkInterfaces := before.networkInterfaces
      features := before.features } = before

theorem Attached.enable
    {network subnet : String} {before after : Instance} (h : before.Attached network subnet after) :
    before.AttachedAndVirtualized network subnet (NestedVirtualization.enable after) where
  interfaces := h.interfaces
  virtualized := rfl
  others_kept := by
    obtain ⟨-, hothers⟩ := h
    rw [← hothers]
    rfl

end Instance

namespace NetworkAssignment

/-- What the hook makes of an instance. -/
def onInstance (network subnet : String) (i : Instance) : Instance :=
  if network.isEmpty ∧ subnet.isEmpty then i else attachInstance network subnet i

theorem apply_eq_mapInstances (network subnet : String) (workflow : Workflow) :
    apply network subnet workflow = workflow.mapInstances (onInstance network subnet) := by
  rw [apply]
  split
  next hempty =>
    have hid : onInstance network subnet = id := by
      funext i
      rw [onInstance, if_pos hempty]
      rfl
    rw [hid, Workflow.mapInstances, StepWork.mapInstances_id, Workflow.mapWork_id]
  next hgiven =>
    have hattach : onInstance network subnet = attachInstance network subnet := by
      funext i
      rw [onInstance, if_neg hgiven]
    rw [hattach]

theorem attached_onInstance (network subnet : String) (i : Instance) :
    i.Attached network subnet (onInstance network subnet i) := by
  rw [onInstance]
  split
  next hempty =>
    rw [String.isEmpty_iff, String.isEmpty_iff] at hempty
    exact ⟨.untouched hempty.1 hempty.2, rfl⟩
  next hgiven =>
    rw [String.isEmpty_iff, String.isEmpty_iff, not_and_or] at hgiven
    refine ⟨?_, rfl⟩
    rw [attachInstance]
    cases i.networkInterfaces with
    | nil => exact .created hgiven (attachedTo_attach network subnet {})
    | cons first rest => exact .attached hgiven (attachedTo_attach network subnet first)

end NetworkAssignment

/-! ## Workflows -/

theorem Workflow.mapInstances_mapInstances (f g : Instance → Instance) (workflow : Workflow) :
    (workflow.mapInstances g).mapInstances f = workflow.mapInstances (f ∘ g) := by
  have hwork : StepWork.mapInstances f ∘ StepWork.mapInstances g =
      StepWork.mapInstances (f ∘ g) := by
    funext work
    simp [StepWork.mapInstances, InstanceGroup.map_comp]
  rw [Workflow.mapInstances, Workflow.mapInstances, Workflow.mapWork_mapWork, hwork]
  rfl

/-- A change of every instance that is allowed for each keeps the rest of a job. -/
theorem Job.within_mapInstances
    {R : Instance → Instance → Prop} {f : Instance → Instance} (h : ∀ i, R i (f i)) (job : Job) :
    job.Within (.onInstances R) (job.mapWorkflow (Workflow.mapInstances f)) :=
  Job.within_mapWork (StepWork.within_mapInstances h) job

/-- The network hook attaches the first interface of every instance, of either list of a step and at
every depth: it gets the network and the subnetwork that are given, comes into being if there was no
interface, and stays as it is if neither is given.  All other interfaces stay as they are, in their
order, and so does everything else.  If nested virtualization is enabled as well, it is enabled for
every instance, and which of the two hooks comes first makes no difference. -/
theorem Builtin.interfaces_attached_and_virtualized
    (files : FileNode) (net subnet : String) (job : Job) :
    let attached := ((network net subnet).prepare files job).value
    let virtualized := (nestedVirtualization.prepare files job).value
    let both := (nestedVirtualization.prepare files attached.job).value
    attached.failure = none ∧
      job.Within (.onInstances (Instance.Attached net subnet)) attached.job ∧
      both.failure = none ∧
      job.Within (.onInstances (Instance.AttachedAndVirtualized net subnet)) both.job ∧
      virtualized.failure = none ∧
      ((network net subnet).prepare files virtualized.job).value = both := by
  intro attached virtualized both
  have hattached : attached.job =
      job.mapWorkflow (Workflow.mapInstances (NetworkAssignment.onInstance net subnet)) :=
    congrArg (fun workflow => { job with workflow })
      (NetworkAssignment.apply_eq_mapInstances net subnet job.workflow)
  have hboth : both.job = job.mapWorkflow (Workflow.mapInstances
      (NestedVirtualization.enable ∘ NetworkAssignment.onInstance net subnet)) := by
    change attached.job.mapWorkflow (Workflow.mapInstances NestedVirtualization.enable) = _
    rw [hattached, Job.mapWorkflow, Job.mapWorkflow, Workflow.mapInstances_mapInstances]
    rfl
  have hindependent : Concern.network.Independent .nestedVirtualization := by decide
  have hcommute : Commute files (network net subnet) nestedVirtualization :=
    commute_of_independent files hindependent
  refine ⟨rfl, ?_, rfl, ?_, rfl, ?_⟩
  · rw [hattached]
    exact Job.within_mapInstances (NetworkAssignment.attached_onInstance net subnet) job
  · rw [hboth]
    exact Job.within_mapInstances
      (fun i => (NetworkAssignment.attached_onInstance net subnet i).enable) job
  · exact congrArg (fun job => ({ job, failure := none } : Preparation)) (hcommute.job_eq job).symm

end ImageFlow
