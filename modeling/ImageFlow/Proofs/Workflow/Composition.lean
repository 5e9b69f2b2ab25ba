import ImageFlow.Workflow.Traversal

/-!
# One change of all steps after another

Two changes of the work of every step, one after the other, are one change by the composed function,
at every depth.  So what two functions do to one step decides what they do to workflows: whether they
commute, and whether a second change is seen at all.
-/

namespace ImageFlow

theorem InstanceGroup.map_comp (f g : Instance → Instance) :
    InstanceGroup.map (f ∘ g) = InstanceGroup.map f ∘ InstanceGroup.map g := by
  funext group
  simp [InstanceGroup.map]

theorem InstanceGroup.map_id : InstanceGroup.map id = id := by
  funext group
  simp [InstanceGroup.map]

theorem StepWork.mapInstances_id : StepWork.mapInstances id = id := by
  funext work
  simp [StepWork.mapInstances, InstanceGroup.map_id]

section Composition

variable (f g : StepWork → StepWork)

mutual

theorem Workflow.mapWork_mapWork : (workflow : Workflow) →
    (workflow.mapWork g).mapWork f = workflow.mapWork (f ∘ g)
  | ⟨_, _, _, _, _, _, _, steps, _⟩ => by
    simp only [Workflow.mapWork_mk]
    rw [Step.mapWorkAll_mapWorkAll steps]

theorem Step.mapWorkAll_mapWorkAll : (steps : List (String × Step)) →
    Step.mapWorkAll f (Step.mapWorkAll g steps) = Step.mapWorkAll (f ∘ g) steps
  | [] => rfl
  | (_, step) :: rest => by
    simp only [Step.mapWorkAll_cons]
    rw [Step.mapWork_mapWork step, Step.mapWorkAll_mapWorkAll rest]

theorem Step.mapWork_mapWork : (step : Step) →
    (step.mapWork g).mapWork f = step.mapWork (f ∘ g)
  | ⟨_, included, sub⟩ => by
    simp only [Step.mapWork_mk]
    rw [NestedWorkflow.mapWork?_mapWork? included, NestedWorkflow.mapWork?_mapWork? sub]
    rfl

theorem NestedWorkflow.mapWork?_mapWork? : (nested : Option NestedWorkflow) →
    NestedWorkflow.mapWork? f (NestedWorkflow.mapWork? g nested) =
      NestedWorkflow.mapWork? (f ∘ g) nested
  | none => rfl
  | some ⟨_, _, none⟩ => rfl
  | some ⟨_, _, some workflow⟩ => by
    simp only [NestedWorkflow.mapWork?_some]
    rw [Workflow.mapWork_mapWork workflow]

end

end Composition

mutual

theorem Workflow.mapWork_id : (workflow : Workflow) → workflow.mapWork id = workflow
  | ⟨_, _, _, _, _, _, _, steps, _⟩ => by
    rw [Workflow.mapWork_mk, Step.mapWorkAll_id steps]

theorem Step.mapWorkAll_id : (steps : List (String × Step)) → Step.mapWorkAll id steps = steps
  | [] => rfl
  | (_, step) :: rest => by
    rw [Step.mapWorkAll_cons, Step.mapWork_id step, Step.mapWorkAll_id rest]

theorem Step.mapWork_id : (step : Step) → step.mapWork id = step
  | ⟨_, included, sub⟩ => by
    rw [Step.mapWork_mk, NestedWorkflow.mapWork?_id included, NestedWorkflow.mapWork?_id sub]
    rfl

theorem NestedWorkflow.mapWork?_id : (nested : Option NestedWorkflow) →
    NestedWorkflow.mapWork? id nested = nested
  | none => rfl
  | some ⟨_, _, none⟩ => rfl
  | some ⟨_, _, some workflow⟩ => by
    rw [NestedWorkflow.mapWork?_some, Workflow.mapWork_id workflow]

end

theorem Workflow.project_mapWork (f : StepWork → StepWork) (workflow : Workflow) :
    (workflow.mapWork f).project = workflow.project := by
  obtain ⟨⟩ := workflow
  rfl

end ImageFlow
