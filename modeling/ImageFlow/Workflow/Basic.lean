import ImageFlow.Workflow.Resource

/-!
# Workflows

A workflow is a set of named steps.  A step creates resources, and may bring in further
workflows: one that is included in the workflow itself, and one that runs below it.  Both are
nested to any depth.  The workflows, steps and nested workflows are three types of one mutual
definition, so the steps are held as a list of entries in name order.
-/

namespace ImageFlow

/-- The resources that a step creates, and all its other attributes. -/
structure StepWork where
  instances : Option InstanceGroup := none
  disks : Option (List Disk) := none
  images : Option (List Image) := none
  other : OrderedMap Json := ∅
  deriving Inhabited

def StepWork.allInstances (work : StepWork) : List Instance :=
  match work.instances with
  | some group => group.all
  | none => []

def StepWork.mapInstances (f : Instance → Instance) (work : StepWork) : StepWork :=
  { work with instances := work.instances.map (InstanceGroup.map f) }

def StepWork.visitInstances {m : Type → Type} [Monad m] (f : Instance → m Instance)
    (work : StepWork) : m StepWork :=
  match work.instances with
  | none => return work
  | some group => return { work with instances := ← group.visit f }

def StepWork.allDisks (work : StepWork) : List Disk :=
  work.disks.getD []

def StepWork.allImages (work : StepWork) : List Image :=
  work.images.getD []

theorem StepWork.allInstances_mapInstances (f : Instance → Instance) (work : StepWork) :
    (work.mapInstances f).allInstances = work.allInstances.map f := by
  cases h : work.instances <;>
    simp [StepWork.mapInstances, StepWork.allInstances, h, InstanceGroup.all_map]

mutual

/-- A workflow: where it runs, its variables, its steps in name order, and for each step the
steps that it waits for. -/
structure Workflow where
  name : String := ""
  project : String := ""
  zone : String := ""
  gcsPath : String := ""
  oauthPath : String := ""
  defaultTimeout : String := ""
  vars : OrderedMap Json := ∅
  steps : List (String × Step) := []
  dependencies : OrderedMap (List String) := ∅

/-- One step of a workflow: what it creates and the workflows that it brings in. -/
structure Step where
  work : StepWork := {}
  includeWorkflow : Option NestedWorkflow := none
  subWorkflow : Option NestedWorkflow := none

/-- A workflow inside a step, once it has been filled in. -/
structure NestedWorkflow where
  path : String := ""
  vars : OrderedMap Json := ∅
  workflow : Option Workflow := none

end

instance : Inhabited Workflow := ⟨{}⟩

instance : Inhabited Step := ⟨{}⟩

instance : Inhabited NestedWorkflow := ⟨{}⟩

end ImageFlow
