import ImageFlow.Proofs.Workflow.Composition
import Mathlib.Data.List.Forall2
import Mathlib.Data.Option.Defs

/-!
# Workflows that differ in the work of their steps only

A visitor of steps sees the whole step, but what it returns becomes the work of the step and nothing
else.  `Workflow.Reworked` says this of two workflows, through all nested ones: they have the same
steps under the same names, bring in the same nested workflows in the same places, and may differ
only in the work of a step, which is related as a given relation says.

What a step creates is compared part by part: each of its lists is there in both or in neither, and
has the same resources in the same order, which may differ as an `Allowance` says.
-/

namespace ImageFlow

/-! ## Work of steps -/

/-- What may become of an instance, a disk and an image. -/
structure Allowance where
  instances : Instance → Instance → Prop
  disks : Disk → Disk → Prop
  images : Image → Image → Prop

/-- Instances may change as the relation says, disks and images not at all. -/
def Allowance.onInstances (R : Instance → Instance → Prop) : Allowance :=
  ⟨R, (· = ·), (· = ·)⟩

/-- Whatever the first allows is allowed by the second. -/
structure Allowance.Included (first second : Allowance) : Prop where
  instances : ∀ i j, first.instances i j → second.instances i j
  disks : ∀ d e, first.disks d e → second.disks d e
  images : ∀ i j, first.images i j → second.images i j

/-- Resources are allowed to stay as they are. -/
structure Allowance.Reflexive (allowed : Allowance) : Prop where
  instances : ∀ i, allowed.instances i i
  disks : ∀ d, allowed.disks d d
  images : ∀ i, allowed.images i i

/-- The groups have related instances, in the same order in each of their lists. -/
structure InstanceGroup.Related (R : Instance → Instance → Prop) (before after : InstanceGroup) :
    Prop where
  instances : List.Forall₂ R before.instances after.instances
  beta : List.Forall₂ R before.beta after.beta

/-- The steps create resources of the same kinds, in the same number and order, which differ only as
it is allowed, and have the same other attributes. -/
structure StepWork.Within (allowed : Allowance) (before after : StepWork) : Prop where
  instances :
    Option.Rel (InstanceGroup.Related allowed.instances) before.instances after.instances
  disks : Option.Rel (List.Forall₂ allowed.disks) before.disks after.disks
  images : Option.Rel (List.Forall₂ allowed.images) before.images after.images
  other_eq : after.other = before.other

theorem rel_map_right {α : Type} {R : α → α → Prop} {f : α → α} (h : ∀ a, R a (f a)) :
    (value : Option α) → Option.Rel R value (value.map f)
  | none => .none
  | some a => .some (h a)

theorem rel_imp {α : Type} {R S : α → α → Prop} (h : ∀ a b, R a b → S a b) {a b : Option α}
    (hrel : Option.Rel R a b) : Option.Rel S a b := by
  cases hrel with
  | none => exact .none
  | some hab => exact .some (h _ _ hab)

theorem forall₂_map_right {α : Type} {R : α → α → Prop} {f : α → α} (h : ∀ a, R a (f a))
    (items : List α) : List.Forall₂ R items (items.map f) := by
  rw [List.forall₂_map_right_iff, List.forall₂_same]
  exact fun item _ => h item

theorem InstanceGroup.related_map
    {R : Instance → Instance → Prop} {f : Instance → Instance} (h : ∀ i, R i (f i))
    (group : InstanceGroup) : group.Related R (group.map f) :=
  ⟨forall₂_map_right h group.instances, forall₂_map_right h group.beta⟩

namespace StepWork

/-- A change of every resource that is allowed for each. -/
theorem within_of_map
    {allowed : Allowance} {f : Instance → Instance} {g : Disk → Disk} {k : Image → Image}
    (hf : ∀ i, allowed.instances i (f i)) (hg : ∀ d, allowed.disks d (g d))
    (hk : ∀ i, allowed.images i (k i)) (work : StepWork) :
    work.Within allowed
      { work with
        instances := work.instances.map (InstanceGroup.map f)
        disks := work.disks.map (List.map g)
        images := work.images.map (List.map k) } where
  instances := rel_map_right (InstanceGroup.related_map hf) work.instances
  disks := rel_map_right (forall₂_map_right hg) work.disks
  images := rel_map_right (forall₂_map_right hk) work.images
  other_eq := rfl

theorem within_mapInstances
    {R : Instance → Instance → Prop} {f : Instance → Instance} (h : ∀ i, R i (f i))
    (work : StepWork) : work.Within (.onInstances R) (work.mapInstances f) := by
  have hwithin := @within_of_map (.onInstances R) f id id h (fun _ => rfl) (fun _ => rfl) work
  simpa [mapInstances] using hwithin

theorem within_refl {allowed : Allowance} (h : allowed.Reflexive) (work : StepWork) :
    work.Within allowed work := by
  have hwithin := @within_of_map allowed id id id h.instances h.disks h.images work
  simpa [InstanceGroup.map_id] using hwithin

theorem Within.mono
    {first second : Allowance} (h : first.Included second) {before after : StepWork}
    (hwithin : before.Within first after) : before.Within second after where
  instances := rel_imp (fun _ _ hgroup =>
    ⟨hgroup.instances.imp h.instances, hgroup.beta.imp h.instances⟩) hwithin.instances
  disks := rel_imp (fun _ _ hdisks => hdisks.imp h.disks) hwithin.disks
  images := rel_imp (fun _ _ himages => himages.imp h.images) hwithin.images
  other_eq := hwithin.other_eq

/-- Every instance, every disk and every image that a step creates meets its condition. -/
structure Each (instances : Instance → Prop) (disks : Disk → Prop) (images : Image → Prop)
    (work : StepWork) : Prop where
  instances : ∀ i ∈ work.allInstances, instances i
  disks : ∀ d ∈ work.allDisks, disks d
  images : ∀ i ∈ work.allImages, images i

/-- A change of every resource brings about what it brings about for each. -/
theorem each_of_map
    {I : Instance → Prop} {D : Disk → Prop} {M : Image → Prop} {f : Instance → Instance}
    {g : Disk → Disk} {k : Image → Image} (hf : ∀ i, I (f i)) (hg : ∀ d, D (g d))
    (hk : ∀ i, M (k i)) (work : StepWork) :
    { work with
      instances := work.instances.map (InstanceGroup.map f)
      disks := work.disks.map (List.map g)
      images := work.images.map (List.map k) }.Each I D M where
  instances := by
    intro i hi
    have hall : i ∈ work.allInstances.map f := by
      rw [← allInstances_mapInstances]
      exact hi
    obtain ⟨before, -, rfl⟩ := List.mem_map.mp hall
    exact hf before
  disks := by
    intro d hd
    have hall : d ∈ work.allDisks.map g := by
      rw [allDisks, ← Option.getD_map (List.map g)]
      exact hd
    obtain ⟨before, -, rfl⟩ := List.mem_map.mp hall
    exact hg before
  images := by
    intro i hi
    have hall : i ∈ work.allImages.map k := by
      rw [allImages, ← Option.getD_map (List.map k)]
      exact hi
    obtain ⟨before, -, rfl⟩ := List.mem_map.mp hall
    exact hk before

end StepWork

/-! ## Workflows -/

mutual

/-- The workflows are the same but for the work of their steps, which is related at every depth. -/
inductive Workflow.Reworked (R : StepWork → StepWork → Prop) : Workflow → Workflow → Prop where
  | intro {name project zone gcsPath oauthPath defaultTimeout : String} {vars : OrderedMap Json}
      {before after : List (String × Step)} {dependencies : OrderedMap (List String)}
      (steps : Step.ReworkedAll R before after) :
      Workflow.Reworked R
        ⟨name, project, zone, gcsPath, oauthPath, defaultTimeout, vars, before, dependencies⟩
        ⟨name, project, zone, gcsPath, oauthPath, defaultTimeout, vars, after, dependencies⟩

/-- The steps are reworked one by one, under the same names. -/
inductive Step.ReworkedAll (R : StepWork → StepWork → Prop) :
    List (String × Step) → List (String × Step) → Prop where
  | nil : Step.ReworkedAll R [] []
  | cons {name : String} {before after : Step} {beforeRest afterRest : List (String × Step)}
      (step : Step.Reworked R before after) (rest : Step.ReworkedAll R beforeRest afterRest) :
      Step.ReworkedAll R ((name, before) :: beforeRest) ((name, after) :: afterRest)

/-- The step has related work, and both its nested workflows are reworked. -/
inductive Step.Reworked (R : StepWork → StepWork → Prop) : Step → Step → Prop where
  | intro {before after : StepWork} {included included' sub sub' : Option NestedWorkflow}
      (work : R before after) (includeWorkflow : NestedWorkflow.Reworked? R included included')
      (subWorkflow : NestedWorkflow.Reworked? R sub sub') :
      Step.Reworked R ⟨before, included, sub⟩ ⟨after, included', sub'⟩

/-- The nested workflow is there or not, is filled in or not, and has the same path and variables;
its workflow is reworked. -/
inductive NestedWorkflow.Reworked? (R : StepWork → StepWork → Prop) :
    Option NestedWorkflow → Option NestedWorkflow → Prop where
  | none : NestedWorkflow.Reworked? R none none
  | empty {path : String} {vars : OrderedMap Json} :
      NestedWorkflow.Reworked? R (some ⟨path, vars, Option.none⟩) (some ⟨path, vars, Option.none⟩)
  | filled {path : String} {vars : OrderedMap Json} {before after : Workflow}
      (workflow : Workflow.Reworked R before after) :
      NestedWorkflow.Reworked? R (some ⟨path, vars, some before⟩) (some ⟨path, vars, some after⟩)

end

variable {R S : StepWork → StepWork → Prop}

mutual

theorem Workflow.reworked_refl (h : ∀ work, R work work) :
    (workflow : Workflow) → workflow.Reworked R workflow
  | ⟨_, _, _, _, _, _, _, steps, _⟩ => .intro (Step.reworkedAll_refl h steps)

theorem Step.reworkedAll_refl (h : ∀ work, R work work) :
    (steps : List (String × Step)) → Step.ReworkedAll R steps steps
  | [] => .nil
  | (_, step) :: rest => .cons (Step.reworked_refl h step) (Step.reworkedAll_refl h rest)

theorem Step.reworked_refl (h : ∀ work, R work work) : (step : Step) → step.Reworked R step
  | ⟨work, included, sub⟩ =>
    .intro (h work) (NestedWorkflow.reworked?_refl h included)
      (NestedWorkflow.reworked?_refl h sub)

theorem NestedWorkflow.reworked?_refl (h : ∀ work, R work work) :
    (nested : Option NestedWorkflow) → NestedWorkflow.Reworked? R nested nested
  | none => .none
  | some ⟨_, _, none⟩ => .empty
  | some ⟨_, _, some workflow⟩ => .filled (Workflow.reworked_refl h workflow)

end

mutual

/-- A change of the work of every step reworks a workflow. -/
theorem Workflow.reworked_mapWork {f : StepWork → StepWork} (h : ∀ work, R work (f work)) :
    (workflow : Workflow) → workflow.Reworked R (workflow.mapWork f)
  | ⟨_, _, _, _, _, _, _, steps, _⟩ => .intro (Step.reworkedAll_mapWorkAll h steps)

theorem Step.reworkedAll_mapWorkAll {f : StepWork → StepWork} (h : ∀ work, R work (f work)) :
    (steps : List (String × Step)) → Step.ReworkedAll R steps (Step.mapWorkAll f steps)
  | [] => .nil
  | (_, step) :: rest =>
    .cons (Step.reworked_mapWork h step) (Step.reworkedAll_mapWorkAll h rest)

theorem Step.reworked_mapWork {f : StepWork → StepWork} (h : ∀ work, R work (f work)) :
    (step : Step) → step.Reworked R (step.mapWork f)
  | ⟨work, included, sub⟩ =>
    .intro (h work) (NestedWorkflow.reworked?_mapWork? h included)
      (NestedWorkflow.reworked?_mapWork? h sub)

theorem NestedWorkflow.reworked?_mapWork? {f : StepWork → StepWork} (h : ∀ work, R work (f work)) :
    (nested : Option NestedWorkflow) →
      NestedWorkflow.Reworked? R nested (NestedWorkflow.mapWork? f nested)
  | none => .none
  | some ⟨_, _, none⟩ => .empty
  | some ⟨_, _, some workflow⟩ => .filled (Workflow.reworked_mapWork h workflow)

end

mutual

theorem Workflow.Reworked.mono
    (h : ∀ before after, R before after → S before after) {before after : Workflow} :
    before.Reworked R after → before.Reworked S after
  | .intro steps => .intro (steps.mono h)

theorem Step.ReworkedAll.mono
    (h : ∀ before after, R before after → S before after) {before after : List (String × Step)} :
    Step.ReworkedAll R before after → Step.ReworkedAll S before after
  | .nil => .nil
  | .cons step rest => .cons (step.mono h) (rest.mono h)

theorem Step.Reworked.mono
    (h : ∀ before after, R before after → S before after) {before after : Step} :
    before.Reworked R after → before.Reworked S after
  | .intro work included sub => .intro (h _ _ work) (included.mono h) (sub.mono h)

theorem NestedWorkflow.Reworked?.mono
    (h : ∀ before after, R before after → S before after)
    {before after : Option NestedWorkflow} :
    NestedWorkflow.Reworked? R before after → NestedWorkflow.Reworked? S before after
  | .none => .none
  | .empty => .empty
  | .filled workflow => .filled (workflow.mono h)

end

end ImageFlow
