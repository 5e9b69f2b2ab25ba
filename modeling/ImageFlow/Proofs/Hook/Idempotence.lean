import ImageFlow.Proofs.Data.OrderedMap
import ImageFlow.Proofs.Hook.Attributes

/-!
# Preparations that are made again

A hook that prepares a job which it has prepared before finds nothing left to write.  For the hooks
that change attributes this is a fact about single attributes, which holds at every depth; for the
environment it is a fact about each client, and about the values that are laid over those of the
workflow.

Moving machine types is different.  A machine type is cut at its first dash, so a series that has a
dash itself is not replaced as a whole, and machine types grow with every preparation.
-/

namespace ImageFlow

/-- Making the step once more leaves what making it once left, and it gives up again if it did. -/
def Repeatable (step : Job → Logged Preparation) : Prop :=
  ∀ job, (step (step job).value.job).value = (step job).value

/-! ## Attributes -/

namespace NetworkAssignment

theorem attach_attach (net subnet : String) (interface : NetworkInterface) :
    attach net subnet (attach net subnet interface) = attach net subnet interface := by
  rw [attach, NetworkInterface.mk.injEq]
  constructor
  · by_cases hnet : net.isEmpty <;> simp [attach, hnet]
  · by_cases hsubnet : subnet.isEmpty <;> simp [attach, hsubnet]

theorem attachFirst_attachFirst (net subnet : String) (interfaces : List NetworkInterface) :
    attachFirst net subnet (attachFirst net subnet interfaces) =
      attachFirst net subnet interfaces := by
  cases interfaces with
  | nil => simp only [attachFirst, attach_attach]
  | cons first rest => simp only [attachFirst, attach_attach]

end NetworkAssignment

namespace MachineType

/-- A series without a dash is replaced as a whole. -/
theorem inSeries_inSeries
    {first : String} (hfirst : '-' ∉ first.toList) (second machineType : String) :
    inSeries second (inSeries first machineType) = inSeries second machineType := by
  by_cases hdash : '-' ∈ machineType.toList
  · obtain ⟨front, shape, hsplit, hfront⟩ := List.eq_append_cons_of_mem hdash
    have honce := (moved_inSeries first machineType).dashed front shape hsplit hfront
    have htwice := (moved_inSeries second (inSeries first machineType)).dashed _ shape honce hfirst
    have hdirect := (moved_inSeries second machineType).dashed front shape hsplit hfront
    exact String.toList_inj.mp (htwice.trans hdirect.symm)
  · rw [(moved_inSeries first machineType).dashless hdash]

/-- A series with a dash leaves a part of itself in every machine type. -/
theorem inSeries_inSeries_ne
    {series machineType : String} (hseries : '-' ∈ series.toList)
    (hdash : '-' ∈ machineType.toList) :
    inSeries series (inSeries series machineType) ≠ inSeries series machineType := by
  intro hequal
  obtain ⟨front, shape, hsplit, hfront⟩ := List.eq_append_cons_of_mem hdash
  obtain ⟨head, tail, hparts, hhead⟩ := List.eq_append_cons_of_mem hseries
  have honce := (moved_inSeries series machineType).dashed front shape hsplit hfront
  have hagain : (inSeries series machineType).toList = head ++ '-' :: (tail ++ '-' :: shape) := by
    rw [honce, hparts, List.append_assoc, List.cons_append]
  have htwice := (moved_inSeries series (inSeries series machineType)).dashed _ _ hagain hhead
  rw [hequal, honce] at htwice
  have hshape : '-' :: shape = '-' :: (tail ++ '-' :: shape) := List.append_cancel_left htwice
  have hlength := congrArg List.length hshape
  simp only [List.length_cons, List.length_append] at hlength
  omega

end MachineType

/-! ## Hooks that change attributes -/

namespace Builtin

variable (files : FileNode)

/-- A hook whose change covers that of another one leaves the same with and without it. -/
theorem value_prepare_after
    {first second : Builtin} (hfirst : first.concern ≠ .environment)
    (hsecond : second.concern ≠ .environment)
    (hcovers : ∀ project,
      (second.change project).after (first.change project) = second.change project)
    (job : Job) :
    (second.prepare files (first.prepare files job).value.job).value =
      (second.prepare files job).value := by
  rw [value_prepare_prepare files hfirst hsecond, value_prepare files hsecond, hcovers]

/-- A change of attributes that was made leaves nothing to change. -/
theorem change_after_change
    {hook : Builtin} (hother : hook.selectsSeries = false) (project : String) :
    (hook.change project).after (hook.change project) = hook.change project := by
  cases hook with
  | environment env => rfl
  | labels env =>
      have hoverlay (top : OrderedMap String) : top.overlay ∘ top.overlay = top.overlay :=
        funext top.overlay_overlay
      simp only [change, AttributeChange.after, hoverlay, Function.comp_id]
  | network net subnet =>
      have hattach : NetworkAssignment.attachFirst net subnet ∘
          NetworkAssignment.attachFirst net subnet = NetworkAssignment.attachFirst net subnet :=
        funext (NetworkAssignment.attachFirst_attachFirst net subnet)
      by_cases hempty : net.isEmpty ∧ subnet.isEmpty
      · simp only [change, AttributeChange.after, if_pos hempty, Function.comp_id]
      · simp only [change, AttributeChange.after, if_neg hempty, hattach, Function.comp_id]
  | encryption request =>
      have hkey (key? : Option EncryptionKey) : key?.or ∘ key?.or = key?.or := by
        funext own
        rw [Function.comp_apply, ← Option.or_assoc, Option.or_self]
      simp only [change, AttributeChange.after, hkey, Function.comp_id]
  | nestedVirtualization => rfl
  | machineSeries s => cases hother
  | releaseCheck specified detected => rfl

/-- The series that instances are moved to is the last one. -/
theorem change_machineSeries_after
    {first : SeriesFallback} (hfirst : '-' ∉ first.active.toList) (second : SeriesFallback)
    (project : String) :
    ((machineSeries second).change project).after ((machineSeries first).change project) =
      (machineSeries second).change project := by
  have hmoved : MachineType.inSeries second.active ∘ MachineType.inSeries first.active =
      MachineType.inSeries second.active :=
    funext (MachineType.inSeries_inSeries hfirst second.active)
  simp only [change, AttributeChange.after, hmoved, Function.comp_id]

/-- A series with a dash changes an instance again and again. -/
theorem machines_ne_of_dash
    {s : SeriesFallback} (hseries : '-' ∈ s.active.toList) {job : Job} {i : Instance}
    (hi : i ∈ job.workflow.allInstances) (hdash : '-' ∈ i.machineType.toList) :
    ((machineSeries s).prepare files
        ((machineSeries s).prepare files job).value.job).value.job.workflow.machines ≠
      ((machineSeries s).prepare files job).value.job.workflow.machines := by
  intro hequal
  simp only [prepare, SeriesFallback.machines_prepare, List.map_map] at hequal
  have hmachine := List.map_inj_left.mp hequal i.machine (List.mem_map_of_mem hi)
  exact MachineType.inSeries_inSeries_ne hseries hdash (Prod.mk.inj hmachine).2

end Builtin

/-! ## The environment -/

namespace EnvironmentOverlay

theorem overlay_overlay (env : Environment) (workflow : Workflow) :
    overlay env (overlay env workflow) = overlay env workflow := by
  have hchoose (value own : String) : choose value (choose value own) = choose value own := by
    by_cases hvalue : value.isEmpty <;> simp [choose, hvalue]
  obtain ⟨⟩ := workflow
  simp only [overlay, hchoose]

/-- A step that has nothing left to do for a job. -/
def Done (step : Job → Logged Preparation) (job : Job) : Prop :=
  (step job).value = { job }

section Steps

variable {first step : Job → Logged Preparation}

/-- Steps that are repeatable are so one after the other, unless the second one gives the first one
something to do. -/
theorem repeatable_andThen
    (hfirst : Repeatable first) (hstep : Repeatable step)
    (hkept : ∀ job, Done first job → Done first (step job).value.job) :
    Repeatable fun job => andThen step (first job) := by
  intro job
  have hagain := hfirst job
  cases hfailure : (first job).value.failure with
  | some failure =>
      have hstop : andThen step (first job) = first job := by
        simp only [andThen, hfailure]
      simp only [hstop]
      rw [andThen, hagain, hfailure]
      exact hagain
  | none =>
      have hgo : (andThen step (first job)).value = (step (first job).value.job).value := by
        simp only [andThen, hfailure]
      have hdone : Done first (first job).value.job := by
        rw [Done, hagain, ← hfailure]
      have hstill := hkept _ hdone
      simp only [hgo]
      rw [andThen, hstill]
      exact hstep (first job).value.job

end Steps

section Clients

def withClients (f : ClientSlots → ClientSlots) (job : Job) : Job :=
  { job with clients := f job.clients }

variable {γ : Type} (service : Service) (endpoint message : String)
  {build : Job → Except ClientError γ} (address : γ → String)
  {put : γ → ClientSlots → ClientSlots}

theorem repeatable_installClient
    (hbuild : ∀ job clients, build { job with clients } = build job)
    (hput : ∀ client clients, put client (put client clients) = put client clients) :
    Repeatable (installClient service endpoint message build address put) := by
  intro job
  by_cases hendpoint : endpoint.isEmpty
  · simp only [installClient, if_pos hendpoint, Logged.quiet]
  · cases hbuilt : build job with
    | error source => simp only [installClient, if_neg hendpoint, hbuilt, Logged.quiet]
    | ok client => simp only [installClient, if_neg hendpoint, hbuild, hbuilt, hput]

/-- A client that does not matter to a step leaves it nothing to do. -/
theorem Done.installClient
    {step : Job → Logged Preparation} {job : Job} (h : Done step job)
    (hgoes : ∀ client, GoesWith (withClients (put client)) step) :
    Done step (installClient service endpoint message build address put job).value.job := by
  rw [EnvironmentOverlay.installClient]
  split
  · exact h
  · split
    · exact h
    · next client _ =>
        have hdone : Done step (withClients (put client) job) := by
          rw [Done, hgoes client job, h]
          rfl
        exact hdone

end Clients

theorem repeatable_installAll (files : FileNode) (env : Environment) :
    Repeatable fun job =>
      andThen (installLogging files env)
        (andThen (installStorage files env) (installCompute files env job)) := by
  have hcompute : Repeatable (installCompute files env) :=
    repeatable_installClient _ _ _ _ (fun _ _ => rfl) (fun _ _ => rfl)
  have hstorage : Repeatable (installStorage files env) :=
    repeatable_installClient _ _ _ _ (fun _ _ => rfl) (fun _ _ => rfl)
  have hlogging : Repeatable (installLogging files env) :=
    repeatable_installClient _ _ _ _ (fun _ _ => rfl) (fun _ _ => rfl)
  refine repeatable_andThen (repeatable_andThen hcompute hstorage ?_) hlogging ?_
  · intro job hdone
    apply hdone.installClient
    intro client
    exact goesWith_installClient (withClients _) _ _ _ (fun _ => rfl) _ (fun _ _ => rfl)
  · intro job hdone
    apply hdone.installClient
    intro client
    have hgoesStorage : GoesWith (withClients fun slots => { slots with logging := some client })
        (installStorage files env) :=
      goesWith_installClient (withClients _) _ _ _ (fun _ => rfl) _ (fun _ _ => rfl)
    have hgoesCompute : GoesWith (withClients fun slots => { slots with logging := some client })
        (installCompute files env) :=
      goesWith_installClient (withClients _) _ _ _ (fun _ => rfl) _ (fun _ _ => rfl)
    exact fun job => goesWith_andThen hgoesStorage (hgoesCompute job)

theorem repeatable_prepare (files : FileNode) (env : Environment) :
    Repeatable (prepare files env) := by
  intro job
  have hlaid : (prepare files env job).value.job.mapWorkflow (overlay env) =
      (prepare files env job).value.job := by
    rw [Job.mapWorkflow, workflow_prepare, overlay_overlay, ← workflow_prepare files env job]
  rw [prepare, hlaid]
  exact repeatable_installAll files env (job.mapWorkflow (overlay env))

end EnvironmentOverlay

/-! ## All hooks -/

def Workflow.ofInstance (i : Instance) : Workflow where
  steps := [("create", { work := { instances := some { instances := [i] } } })]

theorem Workflow.mem_allInstances_ofInstance (i : Instance) :
    i ∈ (Workflow.ofInstance i).allInstances :=
  List.mem_cons_self

namespace Builtin

/-- Preparing a job again changes nothing, and fails again if it failed, for all hooks but the
selection of a machine series.  That one is repeatable exactly when its series has no dash, and only
the last of two selections counts when the first one is of such a series. -/
theorem preparations_repeatable (files : FileNode) :
    (∀ hook : Builtin, hook.selectsSeries = false → Repeatable (hook.prepare files)) ∧
    (∀ s : SeriesFallback,
      Repeatable ((machineSeries s).prepare files) ↔ '-' ∉ s.active.toList) ∧
    ∀ first second : SeriesFallback, '-' ∉ first.active.toList → ∀ job,
      ((machineSeries second).prepare files
          ((machineSeries first).prepare files job).value.job).value =
        ((machineSeries second).prepare files job).value := by
  have hother (s : SeriesFallback) : (machineSeries s).concern ≠ .environment := nofun
  have hmoved (first second : SeriesFallback) (hfirst : '-' ∉ first.active.toList) (job : Job) :
      ((machineSeries second).prepare files
          ((machineSeries first).prepare files job).value.job).value =
        ((machineSeries second).prepare files job).value :=
    value_prepare_after files (hother first) (hother second)
      (change_machineSeries_after hfirst second) job
  refine ⟨?_, ?_, hmoved⟩
  · intro hook hselects
    by_cases henv : hook.concern = .environment
    · obtain ⟨env, rfl⟩ := exists_eq_environment henv
      exact EnvironmentOverlay.repeatable_prepare files env
    · exact value_prepare_after files henv henv (change_after_change hselects)
  · intro s
    constructor
    · intro hrepeatable hseries
      let i : Instance := { machineType := "e2-standard-2" }
      have hi : i ∈ (Job.ofWorkflow (.ofInstance i)).workflow.allInstances :=
        Workflow.mem_allInstances_ofInstance i
      have hdash : '-' ∈ i.machineType.toList := by decide
      apply machines_ne_of_dash files hseries hi hdash
      rw [hrepeatable]
    · intro hdashless
      exact hmoved s s hdashless

end Builtin

end ImageFlow
