import ImageFlow.Proofs.Workflow.Places
import ImageFlow.Proofs.Workflow.Rework

/-!
# Every step is visited once

A visit calls the visitor on the steps that `Workflow.placedSteps` lists, one after another, and the
work that it leaves is what the calls returned.  A visit of instances calls its visitor on the
instances of these steps in the same way.  What the visitor does beside that, to a state or by
events, it therefore does in the order of the list.
-/

namespace ImageFlow

/-! ## The calls of a visit -/

section Calls

variable {m : Type → Type} [Monad m] [LawfulMonad m] (f : Step → m StepWork)

mutual

/-- The visitor is called on one listed step after another, and what it returns becomes their
work. -/
theorem Workflow.works_visit : (workflow : Workflow) →
    Workflow.works <$> workflow.visit f = workflow.placedSteps.mapM fun placed => f placed.step
  | ⟨_, _, _, _, _, _, _, steps, _⟩ => by
    rw [Workflow.placedSteps, ← Step.worksAll_visitAll steps, Workflow.visit, map_bind]
    simp only [map_pure, Workflow.works]
    rw [bind_pure_comp]

theorem Step.worksAll_visitAll : (steps : List (String × Step)) →
    Step.worksAll <$> Step.visitAll f steps =
      (Step.placedAll steps).mapM fun placed => f placed.step
  | [] => by simp [Step.visitAll, Step.placedAll, Step.worksAll]
  | (name, step) :: rest => by
    rw [Step.placedAll, List.mapM_append, ← Step.works_visit name step,
      ← Step.worksAll_visitAll rest]
    simp [Step.visitAll, Step.worksAll]

theorem Step.works_visit (name : String) : (step : Step) →
    Step.works <$> step.visit f = (step.placed name).mapM fun placed => f placed.step
  | ⟨_, included, sub⟩ => by
    rw [Step.placed, List.mapM_cons, List.mapM_append,
      ← NestedWorkflow.works?_visit? name .included included,
      ← NestedWorkflow.works?_visit? name .sub sub]
    simp [Step.visit, Step.works]

theorem NestedWorkflow.works?_visit? (name : String) (slot : Slot) :
    (nested : Option NestedWorkflow) →
      NestedWorkflow.works? <$> NestedWorkflow.visit? f nested =
        (NestedWorkflow.placed? name slot nested).mapM fun placed => f placed.step
  | none => by simp [NestedWorkflow.visit?, NestedWorkflow.placed?, NestedWorkflow.works?]
  | some ⟨_, _, none⟩ => by
    simp [NestedWorkflow.visit?, NestedWorkflow.placed?, NestedWorkflow.works?]
  | some ⟨_, _, some workflow⟩ => by
    rw [NestedWorkflow.placed?, List.mapM_map]
    refine Eq.trans ?_ (Workflow.works_visit workflow)
    simp [NestedWorkflow.visit?, NestedWorkflow.works?]

end

end Calls

section InstanceCalls

variable {m : Type → Type} [Monad m] [LawfulMonad m] (g : Instance → m Instance)

theorem InstanceGroup.all_visit (group : InstanceGroup) :
    InstanceGroup.all <$> group.visit g = group.all.mapM g := by
  rw [InstanceGroup.all, List.mapM_append, InstanceGroup.visit]
  simp [InstanceGroup.all]

theorem StepWork.allInstances_visitInstances (work : StepWork) :
    StepWork.allInstances <$> work.visitInstances g = work.allInstances.mapM g := by
  obtain ⟨- | group, disks, images, other⟩ := work
  · simp [StepWork.visitInstances, StepWork.allInstances]
  · simpa [StepWork.visitInstances, StepWork.allInstances] using group.all_visit g

/-- The calls of a visitor of steps that makes calls itself. -/
theorem flatMap_mapM {α β γ δ : Type} {f : α → m β} {g : γ → m δ} {inner : α → List γ}
    {outer : β → List δ} (h : ∀ a, outer <$> f a = (inner a).mapM g) (items : List α) :
    List.flatMap outer <$> items.mapM f = (items.flatMap inner).mapM g := by
  induction items with
  | nil => simp
  | cons item rest ih =>
      rw [List.mapM_cons, List.flatMap_cons, List.mapM_append, ← h, ← ih]
      simp

/-- The visitor is called on one instance after another. -/
theorem Workflow.allInstances_visitInstances (workflow : Workflow) :
    Workflow.allInstances <$> workflow.visitInstances g =
      workflow.allInstances.mapM g := by
  have hsteps := Workflow.works_visit (fun step => step.work.visitInstances g) workflow
  have hcalls := flatMap_mapM (fun placed : PlacedStep =>
    placed.step.work.allInstances_visitInstances g) workflow.placedSteps
  rw [← hsteps, ← comp_map] at hcalls
  rw [Workflow.allInstances, Workflow.works_eq_map_placedSteps, List.flatMap_map, ← hcalls]
  rfl

end InstanceCalls

/-! ## What a visit leaves -/

section Left

variable {σ : Type} {R : StepWork → StepWork → Prop}

mutual

/-- A visitor with a state reworks each step as its calls do, whatever state they start from. -/
theorem Workflow.reworked_visit (f : Step → StateM σ StepWork)
    (h : ∀ step state, R step.work ((f step).run state).1) :
    (workflow : Workflow) → (state : σ) →
      workflow.Reworked R ((workflow.visit f).run state).1
  | ⟨_, _, _, _, _, _, _, steps, _⟩, state => .intro (Step.reworkedAll_visitAll f h steps state)

theorem Step.reworkedAll_visitAll (f : Step → StateM σ StepWork)
    (h : ∀ step state, R step.work ((f step).run state).1) :
    (steps : List (String × Step)) → (state : σ) →
      Step.ReworkedAll R steps ((Step.visitAll f steps).run state).1
  | [], _ => .nil
  | (_, step) :: rest, state =>
    .cons (Step.reworked_visit f h step state) (Step.reworkedAll_visitAll f h rest _)

theorem Step.reworked_visit (f : Step → StateM σ StepWork)
    (h : ∀ step state, R step.work ((f step).run state).1) :
    (step : Step) → (state : σ) → step.Reworked R ((step.visit f).run state).1
  | ⟨work, included, sub⟩, state =>
    .intro (h ⟨work, included, sub⟩ state) (NestedWorkflow.reworked?_visit? f h included _)
      (NestedWorkflow.reworked?_visit? f h sub _)

theorem NestedWorkflow.reworked?_visit? (f : Step → StateM σ StepWork)
    (h : ∀ step state, R step.work ((f step).run state).1) :
    (nested : Option NestedWorkflow) → (state : σ) →
      NestedWorkflow.Reworked? R nested ((NestedWorkflow.visit? f nested).run state).1
  | none, _ => .none
  | some ⟨_, _, none⟩, _ => .empty
  | some ⟨_, _, some workflow⟩, state => .filled (Workflow.reworked_visit f h workflow state)

end

mutual

/-- A workflow that was reworked has its steps at the same places. -/
theorem Workflow.Reworked.places_eq {before after : Workflow} : before.Reworked R after →
    after.placedSteps.map (·.place) = before.placedSteps.map (·.place)
  | .intro steps => steps.places_eq

theorem Step.ReworkedAll.places_eq {before after : List (String × Step)} :
    Step.ReworkedAll R before after →
      (Step.placedAll after).map (·.place) = (Step.placedAll before).map (·.place)
  | .nil => rfl
  | .cons step rest => by
    rw [Step.placedAll, Step.placedAll, List.map_append, List.map_append, step.places_eq,
      rest.places_eq]

theorem Step.Reworked.places_eq {before after : Step} {name : String} :
    before.Reworked R after →
      (after.placed name).map (·.place) = (before.placed name).map (·.place)
  | .intro _ included sub => by
    rw [Step.placed, Step.placed, List.map_cons, List.map_cons, List.map_append, List.map_append,
      included.places_eq, sub.places_eq]

theorem NestedWorkflow.Reworked?.places_eq {before after : Option NestedWorkflow} {name : String}
    {slot : Slot} :
    NestedWorkflow.Reworked? R before after →
      (NestedWorkflow.placed? name slot after).map (·.place) =
        (NestedWorkflow.placed? name slot before).map (·.place)
  | .none => rfl
  | .empty => rfl
  | .filled workflow => by
    have h := congrArg (List.map (Place.inside name slot)) workflow.places_eq
    simpa [NestedWorkflow.placed?, Function.comp_def, PlacedStep.inside] using h

end

theorem Step.ReworkedAll.names_eq {before after : List (String × Step)}
    (h : Step.ReworkedAll R before after) : before.map (·.1) = after.map (·.1) := by
  induction before generalizing after with
  | nil =>
      cases h
      rfl
  | cons entry rest ih =>
      cases h with
      | cons _ hrest => exact congrArg (List.cons _) (ih hrest)

mutual

theorem Workflow.Reworked.inNameOrder {before after : Workflow} : before.Reworked R after →
    before.InNameOrder → after.InNameOrder
  | .intro steps => fun ⟨hsorted, hsteps⟩ =>
    ⟨hsorted.of_keys_eq steps.names_eq, steps.inNameOrderAll hsteps⟩

theorem Step.ReworkedAll.inNameOrderAll {before after : List (String × Step)} :
    Step.ReworkedAll R before after → Step.InNameOrderAll before → Step.InNameOrderAll after
  | .nil => fun _ => trivial
  | .cons step rest => fun ⟨hstep, hrest⟩ => ⟨step.inNameOrder hstep, rest.inNameOrderAll hrest⟩

theorem Step.Reworked.inNameOrder {before after : Step} : before.Reworked R after →
    before.InNameOrder → after.InNameOrder
  | .intro _ included sub => fun ⟨hincluded, hsub⟩ =>
    ⟨included.inNameOrder? hincluded, sub.inNameOrder? hsub⟩

theorem NestedWorkflow.Reworked?.inNameOrder? {before after : Option NestedWorkflow} :
    NestedWorkflow.Reworked? R before after →
      NestedWorkflow.InNameOrder? before → NestedWorkflow.InNameOrder? after
  | .none => fun _ => trivial
  | .empty => fun _ => trivial
  | .filled workflow => workflow.inNameOrder

end

theorem forall₂_mapM {α : Type} (g : α → StateM σ α) (items : List α) (state : σ) :
    List.Forall₂ (fun _ _ => True) items ((items.mapM g).run state).1 := by
  induction items generalizing state with
  | nil => exact .nil
  | cons item rest ih =>
      rw [List.mapM_cons]
      exact .cons trivial (ih _)

/-- A visitor of instances replaces instances, each in its list and at its place, and nothing
else. -/
theorem StepWork.within_visitInstances (g : Instance → StateM σ Instance) (work : StepWork)
    (state : σ) :
    work.Within (.onInstances fun _ _ => True) ((work.visitInstances g).run state).1 := by
  have hsame : work.Within (.onInstances fun _ _ => True) work :=
    within_refl ⟨fun _ => trivial, fun _ => rfl, fun _ => rfl⟩ work
  obtain ⟨- | group, disks, images, other⟩ := work
  · exact hsame
  · exact
      { instances := .some
          ⟨forall₂_mapM g group.instances state, forall₂_mapM g group.beta _⟩
        disks := hsame.disks
        images := hsame.images
        other_eq := hsame.other_eq }

end Left

/-! ## Visits -/

/-- The list of steps has every step of the workflow exactly once, in the order of places. -/
structure Workflow.ListsEachStep (workflow : Workflow) : Prop where
  ordered : workflow.placedSteps.Pairwise PlacedStep.Before
  once : (workflow.placedSteps.map (·.place)).Nodup
  mem_iff : ∀ place step, ⟨place, step⟩ ∈ workflow.placedSteps ↔ workflow.step? place = some step

/-- The visitor was called on one listed step after another, each time in the state that the call
before it left.  In the end the step at each place has the work that the call for it returned, and
nothing else is changed. -/
structure Workflow.StepsVisited {σ : Type} (f : Step → StateM σ StepWork) (before : Workflow)
    (start : σ) (after : Workflow) (finish : σ) : Prop where
  calls : (before.placedSteps.mapM fun placed => f placed.step).run start =
    (after.placedSteps.map (·.step.work), finish)
  places_eq : after.placedSteps.map (·.place) = before.placedSteps.map (·.place)
  in_order : before.InNameOrder → after.InNameOrder
  others_kept : before.Reworked (fun _ _ => True) after

/-- The visitor was called on the instances of one listed step after those of another, for each step
on those of the beta interface after the others.  In the end the instances are those that the calls
returned, each in its list and at its place, and nothing else is changed. -/
structure Workflow.InstancesVisited {σ : Type} (g : Instance → StateM σ Instance)
    (before : Workflow) (start : σ) (after : Workflow) (finish : σ) : Prop where
  calls : (before.allInstances.mapM g).run start = (after.allInstances, finish)
  listed : before.allInstances = before.placedSteps.flatMap fun placed =>
    (placed.step.work.instances.elim [] fun group => group.instances ++ group.beta)
  places_eq : after.placedSteps.map (·.place) = before.placedSteps.map (·.place)
  in_order : before.InNameOrder → after.InNameOrder
  others_kept : before.Reworked (StepWork.Within (.onInstances fun _ _ => True)) after

theorem Workflow.allInstances_eq_flatMap_placedSteps (workflow : Workflow) :
    workflow.allInstances = workflow.placedSteps.flatMap fun placed =>
      (placed.step.work.instances.elim [] fun group => group.instances ++ group.beta) := by
  rw [Workflow.allInstances, Workflow.works_eq_map_placedSteps, List.flatMap_map]
  congr 1
  funext placed
  rw [StepWork.allInstances]
  cases placed.step.work.instances <;> rfl

/-- A visit of steps calls its visitor exactly once on every step at every depth: the steps by name,
each step before the workflows that it brings in, the included workflow before the sub workflow.  A
visit of instances goes through the steps in the same order, and through each list of instances from
its start to its end.  Both come to an end, whatever state the visitor keeps. -/
theorem Workflow.each_step_visited_once
    {σ : Type} (workflow : Workflow) (f : Step → StateM σ StepWork)
    (g : Instance → StateM σ Instance) (start : σ) :
    let visit := (workflow.visit f).run start
    let instanceVisit := (workflow.visitInstances g).run start
    ((∃ document, Workflow.decode document = .ok workflow) → workflow.InNameOrder) ∧
      (workflow.InNameOrder → workflow.ListsEachStep) ∧
      workflow.StepsVisited f start visit.1 visit.2 ∧
      workflow.InstancesVisited g start instanceVisit.1 instanceVisit.2 := by
  intro visit instanceVisit
  refine ⟨?_, ?_, ?_, ?_⟩
  · rintro ⟨document, hread⟩
    exact Workflow.inNameOrder_of_decode hread
  · intro horder
    exact ⟨workflow.pairwise_placedSteps horder, Workflow.nodup_places horder,
      fun _ _ => Workflow.mem_placedSteps_iff horder⟩
  · have hrework : workflow.Reworked (fun _ _ => True) visit.1 :=
      Workflow.reworked_visit f (fun _ _ => trivial) workflow start
    refine ⟨?_, hrework.places_eq, hrework.inNameOrder, hrework⟩
    rw [← Workflow.works_visit, ← Workflow.works_eq_map_placedSteps]
    rfl
  · have hrework : workflow.Reworked (StepWork.Within (.onInstances fun _ _ => True))
        instanceVisit.1 :=
      Workflow.reworked_visit _ (fun step => step.work.within_visitInstances g) workflow start
    refine ⟨?_, workflow.allInstances_eq_flatMap_placedSteps, hrework.places_eq,
      hrework.inNameOrder, hrework⟩
    rw [← Workflow.allInstances_visitInstances]
    rfl

/-- A step that brings in two workflows, and a step after it. -/
def Workflow.exporter : Workflow :=
  { steps :=
      [ ("convert",
          { includeWorkflow := some { workflow := some { steps := [("wait", {})] } }
            subWorkflow := some { workflow := some { steps := [("attach", {})] } } })
      , ("export", {}) ] }

/-- A visitor that counts its calls. -/
def Step.counting (step : Step) : StateM Nat StepWork := do
  modify (· + 1)
  return step.work

theorem Workflow.each_step_visited_once_of_exporter :
    exporter.InNameOrder ∧ exporter.ListsEachStep ∧
      exporter.placedSteps.map (·.place) =
        [ .here "convert", .inside "convert" .included (.here "wait")
        , .inside "convert" .sub (.here "attach"), .here "export" ] ∧
      ((exporter.visit Step.counting).run 0).2 = 4 := by
  have hsorted : Entries.Sorted exporter.steps := by
    rw [Entries.Sorted]
    decide
  have horder : exporter.InNameOrder := by
    refine ⟨hsorted, ?_⟩
    simp [Step.InNameOrderAll, Step.InNameOrder, NestedWorkflow.InNameOrder?, Workflow.InNameOrder,
      Entries.Sorted]
  exact ⟨horder, (exporter.each_step_visited_once Step.counting pure 0).2.1 horder, rfl, rfl⟩

end ImageFlow
