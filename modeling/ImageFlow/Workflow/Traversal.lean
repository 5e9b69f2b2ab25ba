import ImageFlow.Workflow.Basic

/-!
# Visiting every step

`Workflow.visit` goes through all steps at every depth: the steps by name, each step before the
workflows that it brings in, the included workflow before the sub workflow.  What a visitor makes
of a step becomes its work, and the visitor's effects happen in visiting order.  Without effects
this is `Workflow.mapWork`; `Workflow.works` lists the work in the same order, and a change of
every step is seen by the list as a change of every element (`Workflow.works_mapWork`).
-/

namespace ImageFlow

section Visit

variable {m : Type → Type} [Monad m]

mutual

/-- The workflow with the work of every step replaced by what the visitor makes of the step. -/
def Workflow.visit (f : Step → m StepWork) : Workflow → m Workflow
  | ⟨name, project, zone, gcsPath, oauthPath, defaultTimeout, vars, steps, dependencies⟩ => do
    let steps ← Step.visitAll f steps
    return ⟨name, project, zone, gcsPath, oauthPath, defaultTimeout, vars, steps, dependencies⟩

def Step.visitAll (f : Step → m StepWork) : List (String × Step) → m (List (String × Step))
  | [] => pure []
  | (name, step) :: rest => do
    let step ← step.visit f
    let rest ← Step.visitAll f rest
    return (name, step) :: rest

/-- The step, visited before all steps below it. -/
def Step.visit (f : Step → m StepWork) : Step → m Step
  | ⟨work, included, sub⟩ => do
    let work ← f ⟨work, included, sub⟩
    let included ← NestedWorkflow.visit? f included
    let sub ← NestedWorkflow.visit? f sub
    return ⟨work, included, sub⟩

def NestedWorkflow.visit? (f : Step → m StepWork) :
    Option NestedWorkflow → m (Option NestedWorkflow)
  | none => pure none
  | some ⟨path, vars, none⟩ => pure (some ⟨path, vars, none⟩)
  | some ⟨path, vars, some workflow⟩ => do
    let workflow ← workflow.visit f
    return some ⟨path, vars, some workflow⟩

end

/-- The workflow with every instance replaced by what the visitor makes of it, in the order of
the steps and within a step in that of its lists. -/
def Workflow.visitInstances (f : Instance → m Instance) (workflow : Workflow) : m Workflow :=
  workflow.visit fun step => step.work.visitInstances f

end Visit

def Workflow.mapWork (f : StepWork → StepWork) (workflow : Workflow) : Workflow :=
  Id.run (workflow.visit fun step => pure (f step.work))

def Step.mapWorkAll (f : StepWork → StepWork) (steps : List (String × Step)) :
    List (String × Step) :=
  Id.run (Step.visitAll (fun step => pure (f step.work)) steps)

/-- The step with its work and that of all steps below it changed. -/
def Step.mapWork (f : StepWork → StepWork) (step : Step) : Step :=
  Id.run (step.visit fun step => pure (f step.work))

/-- The nested workflow, if there is one, with the work of every step changed. -/
def NestedWorkflow.mapWork? (f : StepWork → StepWork) (nested : Option NestedWorkflow) :
    Option NestedWorkflow :=
  Id.run (NestedWorkflow.visit? (fun step => pure (f step.work)) nested)

section MapWork

variable (f : StepWork → StepWork)

@[simp]
theorem Workflow.mapWork_mk (name project zone gcsPath oauthPath defaultTimeout : String)
    (vars : OrderedMap Json) (steps : List (String × Step))
    (dependencies : OrderedMap (List String)) :
    Workflow.mapWork f
        ⟨name, project, zone, gcsPath, oauthPath, defaultTimeout, vars, steps, dependencies⟩
      = ⟨name, project, zone, gcsPath, oauthPath, defaultTimeout, vars, Step.mapWorkAll f steps,
          dependencies⟩ := rfl

@[simp]
theorem Step.mapWorkAll_nil : Step.mapWorkAll f [] = [] := rfl

@[simp]
theorem Step.mapWorkAll_cons (name : String) (step : Step) (rest : List (String × Step)) :
    Step.mapWorkAll f ((name, step) :: rest) = (name, step.mapWork f) :: Step.mapWorkAll f rest :=
  rfl

@[simp]
theorem Step.mapWork_mk (work : StepWork) (included sub : Option NestedWorkflow) :
    Step.mapWork f ⟨work, included, sub⟩
      = ⟨f work, NestedWorkflow.mapWork? f included, NestedWorkflow.mapWork? f sub⟩ := rfl

@[simp]
theorem NestedWorkflow.mapWork?_none : NestedWorkflow.mapWork? f none = none := rfl

@[simp]
theorem NestedWorkflow.mapWork?_empty (path : String) (vars : OrderedMap Json) :
    NestedWorkflow.mapWork? f (some ⟨path, vars, none⟩) = some ⟨path, vars, none⟩ := rfl

@[simp]
theorem NestedWorkflow.mapWork?_some (path : String) (vars : OrderedMap Json)
    (workflow : Workflow) :
    NestedWorkflow.mapWork? f (some ⟨path, vars, some workflow⟩)
      = some ⟨path, vars, some (workflow.mapWork f)⟩ := rfl

end MapWork

mutual

/-- The work of every step, in visiting order. -/
def Workflow.works : Workflow → List StepWork
  | ⟨_, _, _, _, _, _, _, steps, _⟩ => Step.worksAll steps

/-- The work of the steps and of all steps below them. -/
def Step.worksAll : List (String × Step) → List StepWork
  | [] => []
  | (_, step) :: rest => step.works ++ Step.worksAll rest

/-- The work of a step, then that of the steps below it. -/
def Step.works : Step → List StepWork
  | ⟨work, included, sub⟩ => work :: (NestedWorkflow.works? included ++ NestedWorkflow.works? sub)

/-- The work of every step of a nested workflow, if it is there. -/
def NestedWorkflow.works? : Option NestedWorkflow → List StepWork
  | none => []
  | some ⟨_, _, none⟩ => []
  | some ⟨_, _, some workflow⟩ => workflow.works

end

def Workflow.mapInstances (f : Instance → Instance) (workflow : Workflow) : Workflow :=
  workflow.mapWork (StepWork.mapInstances f)

/-- Every instance, in visiting order. -/
def Workflow.allInstances (workflow : Workflow) : List Instance :=
  workflow.works.flatMap StepWork.allInstances

mutual

theorem Workflow.works_mapWork (f : StepWork → StepWork) :
    (workflow : Workflow) → (workflow.mapWork f).works = workflow.works.map f
  | ⟨_, _, _, _, _, _, _, steps, _⟩ => by
    simp only [Workflow.mapWork_mk, Workflow.works]
    exact Step.worksAll_mapWorkAll f steps

theorem Step.worksAll_mapWorkAll (f : StepWork → StepWork) :
    (steps : List (String × Step)) →
      Step.worksAll (Step.mapWorkAll f steps) = (Step.worksAll steps).map f
  | [] => by simp [Step.worksAll]
  | (_, step) :: rest => by
    simp only [Step.mapWorkAll_cons, Step.worksAll, List.map_append]
    rw [Step.works_mapWork f step, Step.worksAll_mapWorkAll f rest]

theorem Step.works_mapWork (f : StepWork → StepWork) :
    (step : Step) → (step.mapWork f).works = step.works.map f
  | ⟨_, included, sub⟩ => by
    simp only [Step.mapWork_mk, Step.works, List.map_cons, List.map_append]
    rw [NestedWorkflow.works?_mapWork? f included, NestedWorkflow.works?_mapWork? f sub]

theorem NestedWorkflow.works?_mapWork? (f : StepWork → StepWork) :
    (nested : Option NestedWorkflow) →
      NestedWorkflow.works? (NestedWorkflow.mapWork? f nested)
        = (NestedWorkflow.works? nested).map f
  | none => by simp [NestedWorkflow.works?]
  | some ⟨_, _, none⟩ => by simp [NestedWorkflow.works?]
  | some ⟨_, _, some workflow⟩ => by
    simp only [NestedWorkflow.mapWork?_some, NestedWorkflow.works?]
    exact Workflow.works_mapWork f workflow

end

/-- A change of every instance is seen by the list of instances as a change of every element. -/
theorem Workflow.allInstances_mapInstances (f : Instance → Instance) (workflow : Workflow) :
    (workflow.mapInstances f).allInstances = workflow.allInstances.map f := by
  simp only [Workflow.mapInstances, Workflow.allInstances, Workflow.works_mapWork,
    List.flatMap_map, List.map_flatMap, StepWork.allInstances_mapInstances]

end ImageFlow
