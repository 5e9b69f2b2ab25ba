import ImageFlow.Proofs.Data.OrderedMap
import ImageFlow.Proofs.Workflow.RoundTrip
import ImageFlow.Workflow.Traversal

/-!
# Where the steps of a workflow are

A step has its place: the names of the steps that lead to it, from the outside in, and which nested
workflow of each of them to go on in.  Places have an order of their own, which is the order of
names, with a step before all below it and the included workflow before the sub workflow.
`Workflow.placedSteps` lists the steps of a workflow with their places.  If the steps stand in name
order, as they do in every workflow that was read, the list is in the order of places and has each
step that can be looked up exactly once.
-/

namespace ImageFlow

/-! ## Places -/

/-- The two workflows that a step may bring in. -/
inductive Slot where
  | included
  | sub
  deriving DecidableEq, Inhabited

/-- The way to a step. -/
inductive Place where
  /-- A step of the workflow itself. -/
  | here (name : String)
  /-- A step of a workflow that the step of this name brings in. -/
  | inside (name : String) (slot : Slot) (place : Place)
  deriving DecidableEq, Inhabited

/-- The step of the workflow itself that the way leads to or through. -/
def Place.name : Place → String
  | here name => name
  | inside name .. => name

/-- The order in which steps are visited. -/
inductive Place.Before : Place → Place → Prop where
  | name {first second : Place} (h : first.name < second.name) : Before first second
  | own {name : String} {slot : Slot} {place : Place} : Before (here name) (inside name slot place)
  | slot {name : String} {first second : Place} :
      Before (inside name .included first) (inside name .sub second)
  | within {name : String} {slot : Slot} {first second : Place} (h : Before first second) :
      Before (inside name slot first) (inside name slot second)

theorem Place.not_before_self (place : Place) : ¬place.Before place := by
  induction place with
  | here name =>
      rintro ⟨h⟩
      exact String.lt_irrefl _ h
  | inside name slot place ih =>
      intro h
      cases h with
      | name hlt => exact String.lt_irrefl _ hlt
      | within hbefore => exact ih hbefore

/-! ## Looking up and listing -/

/-- The workflow that a step brings in, if it is filled in. -/
def Step.nested? (step : Step) : Slot → Option Workflow
  | .included => step.includeWorkflow.bind NestedWorkflow.workflow
  | .sub => step.subWorkflow.bind NestedWorkflow.workflow

def Workflow.step? (workflow : Workflow) : Place → Option Step
  | .here name => Entries.get? name workflow.steps
  | .inside name slot place =>
    ((Entries.get? name workflow.steps).bind (·.nested? slot)).bind (step? · place)

/-- A step at its place. -/
structure PlacedStep where
  place : Place
  step : Step

/-- A step seen from the workflow around the one that it belongs to. -/
def PlacedStep.inside (name : String) (slot : Slot) (placed : PlacedStep) : PlacedStep :=
  { placed with place := .inside name slot placed.place }

mutual

/-- All steps at every depth, in visiting order. -/
def Workflow.placedSteps : Workflow → List PlacedStep
  | ⟨_, _, _, _, _, _, _, steps, _⟩ => Step.placedAll steps

def Step.placedAll : List (String × Step) → List PlacedStep
  | [] => []
  | (name, step) :: rest => step.placed name ++ Step.placedAll rest

/-- The step of this name, then the steps below it. -/
def Step.placed (name : String) : Step → List PlacedStep
  | ⟨work, included, sub⟩ =>
    ⟨.here name, ⟨work, included, sub⟩⟩ ::
      (NestedWorkflow.placed? name .included included ++ NestedWorkflow.placed? name .sub sub)

/-- The steps of a nested workflow, if it is there. -/
def NestedWorkflow.placed? (name : String) (slot : Slot) : Option NestedWorkflow → List PlacedStep
  | none => []
  | some ⟨_, _, none⟩ => []
  | some ⟨_, _, some workflow⟩ => workflow.placedSteps.map (PlacedStep.inside name slot)

end

mutual

/-- The steps of the workflow are in strict name order, at every depth. -/
def Workflow.InNameOrder : Workflow → Prop
  | ⟨_, _, _, _, _, _, _, steps, _⟩ => Entries.Sorted steps ∧ Step.InNameOrderAll steps

/-- The workflows that the steps bring in are in name order. -/
def Step.InNameOrderAll : List (String × Step) → Prop
  | [] => True
  | (_, step) :: rest => step.InNameOrder ∧ Step.InNameOrderAll rest

/-- The workflows that the step brings in are in name order. -/
def Step.InNameOrder : Step → Prop
  | ⟨_, included, sub⟩ =>
    NestedWorkflow.InNameOrder? included ∧ NestedWorkflow.InNameOrder? sub

/-- The nested workflow is in name order, if it is there. -/
def NestedWorkflow.InNameOrder? : Option NestedWorkflow → Prop
  | none => True
  | some ⟨_, _, none⟩ => True
  | some ⟨_, _, some workflow⟩ => workflow.InNameOrder

end

mutual

/-- The work is listed in the same order. -/
theorem Workflow.works_eq_map_placedSteps : (workflow : Workflow) →
    workflow.works = workflow.placedSteps.map (·.step.work)
  | ⟨_, _, _, _, _, _, _, steps, _⟩ => by
    rw [Workflow.works, Workflow.placedSteps, Step.worksAll_eq_map_placedAll steps]

theorem Step.worksAll_eq_map_placedAll : (steps : List (String × Step)) →
    Step.worksAll steps = (Step.placedAll steps).map (·.step.work)
  | [] => by simp [Step.worksAll, Step.placedAll]
  | (name, step) :: rest => by
    rw [Step.worksAll, Step.placedAll, List.map_append, Step.works_eq_map_placed name step,
      Step.worksAll_eq_map_placedAll rest]

theorem Step.works_eq_map_placed (name : String) : (step : Step) →
    step.works = (step.placed name).map (·.step.work)
  | ⟨_, included, sub⟩ => by
    rw [Step.works, Step.placed, List.map_cons, List.map_append,
      NestedWorkflow.works?_eq_map_placed? name .included included,
      NestedWorkflow.works?_eq_map_placed? name .sub sub]

theorem NestedWorkflow.works?_eq_map_placed? (name : String) (slot : Slot) :
    (nested : Option NestedWorkflow) →
      NestedWorkflow.works? nested = (NestedWorkflow.placed? name slot nested).map (·.step.work)
  | none => by simp [NestedWorkflow.works?, NestedWorkflow.placed?]
  | some ⟨_, _, none⟩ => by simp [NestedWorkflow.works?, NestedWorkflow.placed?]
  | some ⟨_, _, some workflow⟩ => by
    rw [NestedWorkflow.works?, NestedWorkflow.placed?, List.map_map,
      Workflow.works_eq_map_placedSteps workflow]
    rfl

end

/-! ## The steps that are listed -/

theorem NestedWorkflow.placed?_eq (name : String) (slot : Slot) (nested : Option NestedWorkflow) :
    NestedWorkflow.placed? name slot nested =
      match nested.bind NestedWorkflow.workflow with
      | none => []
      | some workflow => workflow.placedSteps.map (PlacedStep.inside name slot) := by
  rcases nested with - | ⟨path, vars, - | workflow⟩ <;> rfl

theorem NestedWorkflow.mem_placed?
    {name : String} {slot : Slot} {nested : Option NestedWorkflow} {placed : PlacedStep} :
    placed ∈ NestedWorkflow.placed? name slot nested ↔
      ∃ workflow, nested.bind NestedWorkflow.workflow = some workflow ∧
        ∃ inner ∈ workflow.placedSteps, inner.inside name slot = placed := by
  rw [NestedWorkflow.placed?_eq]
  cases nested.bind NestedWorkflow.workflow with
  | none => simp
  | some workflow => simp

/-- A step is listed before the steps of the workflows that it brings in. -/
theorem Step.mem_placed {name : String} {step : Step} {placed : PlacedStep} :
    placed ∈ step.placed name ↔
      placed = ⟨.here name, step⟩ ∨
        ∃ slot workflow, step.nested? slot = some workflow ∧
          ∃ inner ∈ workflow.placedSteps, inner.inside name slot = placed := by
  obtain ⟨work, included, sub⟩ := step
  rw [Step.placed, List.mem_cons, List.mem_append, NestedWorkflow.mem_placed?,
    NestedWorkflow.mem_placed?]
  apply or_congr_right
  constructor
  · rintro (h | h)
    · exact ⟨.included, h⟩
    · exact ⟨.sub, h⟩
  · rintro ⟨slot, h⟩
    cases slot with
    | included => exact .inl h
    | sub => exact .inr h

theorem Step.mem_placedAll {steps : List (String × Step)} {placed : PlacedStep} :
    placed ∈ Step.placedAll steps ↔ ∃ entry ∈ steps, placed ∈ entry.2.placed entry.1 := by
  induction steps with
  | nil => simp [Step.placedAll]
  | cons entry rest ih =>
      obtain ⟨name, step⟩ := entry
      simp [Step.placedAll, ih]

theorem Workflow.mem_placedSteps {workflow : Workflow} {placed : PlacedStep} :
    placed ∈ workflow.placedSteps ↔
      ∃ entry ∈ workflow.steps, placed ∈ entry.2.placed entry.1 := by
  obtain ⟨⟩ := workflow
  exact Step.mem_placedAll

/-! ## The order of the list -/

theorem PlacedStep.name_inside (name : String) (slot : Slot) (placed : PlacedStep) :
    (placed.inside name slot).place.name = name := rfl

theorem Step.name_of_mem_placed {name : String} {step : Step} {placed : PlacedStep}
    (h : placed ∈ step.placed name) : placed.place.name = name := by
  rcases Step.mem_placed.mp h with rfl | ⟨slot, workflow, -, inner, -, rfl⟩
  · rfl
  · exact inner.name_inside name slot

/-- The first step is visited before the second. -/
def PlacedStep.Before (first second : PlacedStep) : Prop :=
  first.place.Before second.place

mutual

/-- Steps in name order are listed in the order of their places. -/
theorem Workflow.pairwise_placedSteps : (workflow : Workflow) → workflow.InNameOrder →
    workflow.placedSteps.Pairwise PlacedStep.Before
  | ⟨_, _, _, _, _, _, _, steps, _⟩ => by
    rintro ⟨hsorted, hsteps⟩
    exact Step.pairwise_placedAll steps hsorted hsteps

theorem Step.pairwise_placedAll : (steps : List (String × Step)) → Entries.Sorted steps →
    Step.InNameOrderAll steps → (Step.placedAll steps).Pairwise PlacedStep.Before
  | [] => fun _ _ => .nil
  | (name, step) :: rest => by
    rintro hsorted ⟨hstep, hrest⟩
    obtain ⟨hlater, hsorted⟩ := List.pairwise_cons.mp hsorted
    rw [Step.placedAll, List.pairwise_append]
    refine ⟨Step.pairwise_placed name step hstep, Step.pairwise_placedAll rest hsorted hrest, ?_⟩
    intro first hfirst second hsecond
    obtain ⟨entry, hentry, hsecond⟩ := Step.mem_placedAll.mp hsecond
    apply Place.Before.name
    rw [Step.name_of_mem_placed hfirst, Step.name_of_mem_placed hsecond]
    exact hlater entry hentry

theorem Step.pairwise_placed (name : String) : (step : Step) → step.InNameOrder →
    (step.placed name).Pairwise PlacedStep.Before
  | ⟨_, included, sub⟩ => by
    rintro ⟨hincluded, hsub⟩
    rw [Step.placed, List.pairwise_cons, List.pairwise_append]
    refine ⟨?_, NestedWorkflow.pairwise_placed? name .included included hincluded,
      NestedWorkflow.pairwise_placed? name .sub sub hsub, ?_⟩
    · intro placed hplaced
      rw [List.mem_append, NestedWorkflow.mem_placed?, NestedWorkflow.mem_placed?] at hplaced
      obtain ⟨_, -, inner, -, rfl⟩ | ⟨_, -, inner, -, rfl⟩ := hplaced
      · exact Place.Before.own
      · exact Place.Before.own
    · intro first hfirst second hsecond
      obtain ⟨_, -, inner, -, rfl⟩ := NestedWorkflow.mem_placed?.mp hfirst
      obtain ⟨_, -, other, -, rfl⟩ := NestedWorkflow.mem_placed?.mp hsecond
      exact Place.Before.slot

theorem NestedWorkflow.pairwise_placed? (name : String) (slot : Slot) :
    (nested : Option NestedWorkflow) → NestedWorkflow.InNameOrder? nested →
      (NestedWorkflow.placed? name slot nested).Pairwise PlacedStep.Before
  | none => fun _ => .nil
  | some ⟨_, _, none⟩ => fun _ => .nil
  | some ⟨_, _, some workflow⟩ => by
    intro h
    rw [NestedWorkflow.placed?, List.pairwise_map]
    exact (Workflow.pairwise_placedSteps workflow h).imp .within

end

/-! ## Looking up what is listed -/

theorem Step.inNameOrder_iff {step : Step} :
    step.InNameOrder ↔
      ∀ slot workflow, step.nested? slot = some workflow → workflow.InNameOrder := by
  have hnested (nested : Option NestedWorkflow) :
      NestedWorkflow.InNameOrder? nested ↔
        ∀ workflow, nested.bind NestedWorkflow.workflow = some workflow →
          workflow.InNameOrder := by
    rcases nested with - | ⟨path, vars, - | workflow⟩
    · simp [NestedWorkflow.InNameOrder?]
    · simp [NestedWorkflow.InNameOrder?]
    · simp [NestedWorkflow.InNameOrder?]
  obtain ⟨work, included, sub⟩ := step
  rw [Step.InNameOrder, hnested, hnested]
  constructor
  · rintro ⟨hincluded, hsub⟩ slot
    cases slot with
    | included => exact hincluded
    | sub => exact hsub
  · intro h
    exact ⟨h .included, h .sub⟩

/-- A workflow is in name order if its own steps are and the workflows are that they bring in. -/
theorem Workflow.inNameOrder_iff {workflow : Workflow} :
    workflow.InNameOrder ↔
      Entries.Sorted workflow.steps ∧ ∀ entry ∈ workflow.steps, entry.2.InNameOrder := by
  have hsteps (steps : List (String × Step)) :
      Step.InNameOrderAll steps ↔ ∀ entry ∈ steps, entry.2.InNameOrder := by
    induction steps with
    | nil => simp [Step.InNameOrderAll]
    | cons entry rest ih => simp [Step.InNameOrderAll, ih]
  obtain ⟨⟩ := workflow
  rw [Workflow.InNameOrder, hsteps]

/-- The steps that are listed are those that can be looked up. -/
theorem Workflow.mem_placedSteps_iff
    {workflow : Workflow} (h : workflow.InNameOrder) {place : Place} {step : Step} :
    ⟨place, step⟩ ∈ workflow.placedSteps ↔ workflow.step? place = some step := by
  induction place generalizing workflow with
  | here name =>
      rw [Workflow.mem_placedSteps, Workflow.step?]
      constructor
      · rintro ⟨⟨name', step'⟩, hentry, hplaced⟩
        rcases Step.mem_placed.mp hplaced with heq | ⟨slot, nested, -, inner, -, heq⟩
        · cases heq
          exact Entries.get?_eq_some_of_mem (Workflow.inNameOrder_iff.mp h).1 hentry
        · cases heq
      · intro hstep
        exact ⟨(name, step), Entries.mem_of_get?_eq_some hstep, Step.mem_placed.mpr (.inl rfl)⟩
  | inside name slot place ih =>
      obtain ⟨hsorted, hsteps⟩ := Workflow.inNameOrder_iff.mp h
      simp only [Workflow.mem_placedSteps, Workflow.step?, Option.bind_eq_some_iff]
      constructor
      · rintro ⟨⟨name', outer⟩, hentry, hplaced⟩
        rcases Step.mem_placed.mp hplaced with heq | ⟨slot', nested, hnested, inner, hinner, heq⟩
        · cases heq
        · cases heq
          have horder := Step.inNameOrder_iff.mp (hsteps _ hentry) _ nested hnested
          exact ⟨nested, ⟨outer, Entries.get?_eq_some_of_mem hsorted hentry, hnested⟩,
            (ih horder).mp hinner⟩
      · rintro ⟨nested, ⟨outer, houter, hnested⟩, hstep⟩
        have hentry := Entries.mem_of_get?_eq_some houter
        have horder := Step.inNameOrder_iff.mp (hsteps _ hentry) _ nested hnested
        exact ⟨(name, outer), hentry, Step.mem_placed.mpr
          (.inr ⟨slot, nested, hnested, _, (ih horder).mpr hstep, rfl⟩)⟩

/-- No two steps that are listed are at one place. -/
theorem Workflow.nodup_places {workflow : Workflow} (h : workflow.InNameOrder) :
    (workflow.placedSteps.map (·.place)).Nodup := by
  refine List.pairwise_map.mpr ((workflow.pairwise_placedSteps h).imp ?_)
  intro first second hbefore heq
  rw [PlacedStep.Before, heq] at hbefore
  exact Place.not_before_self _ hbefore

/-! ## Workflows that were read -/

theorem Json.inOrder_of_get?_ofList
    {pairs : List (String × Json)} (key : String) {value : Json} (h : (ofPairs pairs).InOrder)
    (hget : (OrderedMap.ofList pairs).get? key = some value) : value.InOrder :=
  (Json.inOrder_object_iff.mp h).2 _ (Entries.mem_of_get?_eq_some hget)

mutual

/-- A workflow that is written as a value in order is in name order. -/
theorem Workflow.inNameOrder_of_encode : (workflow : Workflow) → workflow.encode.InOrder →
    workflow.InNameOrder
  | ⟨_, _, _, _, _, _, _, steps, _⟩, h => by
    have hpart : (Json.object (Step.encodeAll steps)).InOrder := by
      rw [Workflow.encode_eq] at h
      exact Json.inOrder_of_get?_ofList "Steps" h (by simp)
    obtain ⟨hsorted, hsteps⟩ := Json.inOrder_object_iff.mp hpart
    refine ⟨hsorted.of_keys_eq ?_, Step.inNameOrderAll_of_encode steps hsteps⟩
    rw [Step.encodeAll_eq_map, List.map_map]
    rfl

theorem Step.inNameOrderAll_of_encode : (steps : List (String × Step)) →
    (∀ member ∈ Step.encodeAll steps, member.2.InOrder) → Step.InNameOrderAll steps
  | [], _ => trivial
  | (_, step) :: rest, h => by
    rw [Step.encodeAll, List.forall_mem_cons] at h
    exact ⟨Step.inNameOrder_of_encode step h.1, Step.inNameOrderAll_of_encode rest h.2⟩

theorem Step.inNameOrder_of_encode : (step : Step) → step.encode.InOrder → step.InNameOrder
  | ⟨work, included, sub⟩, h => by
    rw [Step.encode_eq] at h
    refine ⟨NestedWorkflow.inNameOrder?_of_encode included ?_,
      NestedWorkflow.inNameOrder?_of_encode sub ?_⟩
    · rintro nested rfl
      exact Json.inOrder_of_get?_ofList "IncludeWorkflow" h (by simp)
    · rintro nested rfl
      exact Json.inOrder_of_get?_ofList "SubWorkflow" h (by simp)

theorem NestedWorkflow.inNameOrder?_of_encode : (nested : Option NestedWorkflow) →
    (∀ n, nested = some n → n.encode.InOrder) → NestedWorkflow.InNameOrder? nested
  | none, _ => trivial
  | some ⟨_, _, none⟩, _ => trivial
  | some ⟨path, vars, some workflow⟩, h => by
    refine Workflow.inNameOrder_of_encode workflow ?_
    exact Json.inOrder_of_get?_ofList "Workflow" (h _ rfl) (by simp)

end

/-- The steps of a workflow that was read are in name order, whatever their order in the
document. -/
theorem Workflow.inNameOrder_of_decode {document : Document} {workflow : Workflow}
    (h : Workflow.decode document = .ok workflow) : workflow.InNameOrder :=
  workflow.inNameOrder_of_encode (Workflow.faithful.inOrder_encode h)

end ImageFlow
