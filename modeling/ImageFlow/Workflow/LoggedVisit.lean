import ImageFlow.Log
import ImageFlow.Workflow.Traversal

/-!
# Visits that report events

A visitor of instances that reports events leaves the workflow that the same visitor leaves
without reporting (`Workflow.value_visitInstances`), and its events come in the order of the
instances (`Workflow.events_visitInstances`).
-/

namespace ImageFlow

section Lists

variable {α β : Type} (f : α → Logged β)

theorem Logged.value_mapM (items : List α) :
    (items.mapM f).value = items.map fun item => (f item).value := by
  induction items with
  | nil => rfl
  | cons item rest ih => simp [List.mapM_cons, ih]

theorem Logged.events_mapM (items : List α) :
    (items.mapM f).events = items.flatMap fun item => (f item).events := by
  induction items with
  | nil => rfl
  | cons item rest ih => simp [List.mapM_cons, ih]

end Lists

section Steps

variable (f : StepWork → Logged StepWork)

def Step.onWork (step : Step) : Logged StepWork :=
  f step.work

mutual

theorem Workflow.value_visit : (workflow : Workflow) →
    (workflow.visit (Step.onWork f)).value = workflow.mapWork fun work => (f work).value
  | ⟨_, _, _, _, _, _, _, steps, _⟩ => by
    simp [Workflow.visit, Step.value_visitAll steps]

theorem Step.value_visitAll : (steps : List (String × Step)) →
    (Step.visitAll (Step.onWork f) steps).value
      = Step.mapWorkAll (fun work => (f work).value) steps
  | [] => by simp [Step.visitAll]
  | (_, step) :: rest => by
    simp [Step.visitAll, Step.value_visit step, Step.value_visitAll rest]

theorem Step.value_visit : (step : Step) →
    (step.visit (Step.onWork f)).value = step.mapWork fun work => (f work).value
  | ⟨_, included, sub⟩ => by
    simp [Step.visit, Step.onWork, NestedWorkflow.value_visit? included,
      NestedWorkflow.value_visit? sub]

theorem NestedWorkflow.value_visit? : (nested : Option NestedWorkflow) →
    (NestedWorkflow.visit? (Step.onWork f) nested).value
      = NestedWorkflow.mapWork? (fun work => (f work).value) nested
  | none => by simp [NestedWorkflow.visit?]
  | some ⟨_, _, none⟩ => by simp [NestedWorkflow.visit?]
  | some ⟨_, _, some workflow⟩ => by
    simp [NestedWorkflow.visit?, Workflow.value_visit workflow]

end

mutual

theorem Workflow.events_visit : (workflow : Workflow) →
    (workflow.visit (Step.onWork f)).events = workflow.works.flatMap fun work => (f work).events
  | ⟨_, _, _, _, _, _, _, steps, _⟩ => by
    simp [Workflow.visit, Workflow.works, Step.events_visitAll steps]

theorem Step.events_visitAll : (steps : List (String × Step)) →
    (Step.visitAll (Step.onWork f) steps).events
      = (Step.worksAll steps).flatMap fun work => (f work).events
  | [] => by simp [Step.visitAll, Step.worksAll]
  | (_, step) :: rest => by
    simp [Step.visitAll, Step.worksAll, Step.events_visit step, Step.events_visitAll rest]

theorem Step.events_visit : (step : Step) →
    (step.visit (Step.onWork f)).events = step.works.flatMap fun work => (f work).events
  | ⟨_, included, sub⟩ => by
    simp [Step.visit, Step.works, Step.onWork, NestedWorkflow.events_visit? included,
      NestedWorkflow.events_visit? sub]

theorem NestedWorkflow.events_visit? : (nested : Option NestedWorkflow) →
    (NestedWorkflow.visit? (Step.onWork f) nested).events
      = (NestedWorkflow.works? nested).flatMap fun work => (f work).events
  | none => by simp [NestedWorkflow.visit?, NestedWorkflow.works?]
  | some ⟨_, _, none⟩ => by simp [NestedWorkflow.visit?, NestedWorkflow.works?]
  | some ⟨_, _, some workflow⟩ => by
    simp [NestedWorkflow.visit?, NestedWorkflow.works?, Workflow.events_visit workflow]

end

end Steps

section Instances

variable (f : Instance → Logged Instance)

theorem InstanceGroup.value_visit (group : InstanceGroup) :
    (group.visit f).value = group.map fun i => (f i).value := by
  simp [InstanceGroup.visit, InstanceGroup.map, Logged.value_mapM]

theorem InstanceGroup.events_visit (group : InstanceGroup) :
    (group.visit f).events = group.all.flatMap fun i => (f i).events := by
  simp [InstanceGroup.visit, InstanceGroup.all, Logged.events_mapM]

theorem StepWork.value_visitInstances (work : StepWork) :
    (work.visitInstances f).value = work.mapInstances fun i => (f i).value := by
  obtain ⟨instances, disks, images, other⟩ := work
  cases instances <;>
    simp [StepWork.visitInstances, StepWork.mapInstances, InstanceGroup.value_visit]

theorem StepWork.events_visitInstances (work : StepWork) :
    (work.visitInstances f).events = work.allInstances.flatMap fun i => (f i).events := by
  cases h : work.instances <;>
    simp [StepWork.visitInstances, StepWork.allInstances, h, InstanceGroup.events_visit]

/-- Reporting does not change what a visit leaves. -/
theorem Workflow.value_visitInstances (workflow : Workflow) :
    (workflow.visitInstances f).value = workflow.mapInstances fun i => (f i).value := by
  have h := Workflow.value_visit (StepWork.visitInstances f) workflow
  simp only [StepWork.value_visitInstances] at h
  exact h

/-- The events of a visit come in the order of the instances. -/
theorem Workflow.events_visitInstances (workflow : Workflow) :
    (workflow.visitInstances f).events = workflow.allInstances.flatMap fun i => (f i).events := by
  have h := Workflow.events_visit (StepWork.visitInstances f) workflow
  simp only [StepWork.events_visitInstances] at h
  rw [Workflow.allInstances, List.flatMap_assoc]
  exact h

end Instances

end ImageFlow
