import ImageFlow.Proofs.Hook.OneShot
import ImageFlow.Proofs.Resolve.Filling
import ImageFlow.Proofs.Run.Session
import Mathlib.Data.List.Basic

/-!
# Machine series that were detected

A series is detected where a zone offers it in every shape that a run needs, and a run moves its
instances to the first series and then to the second one.  So an instance of such a shape is moved
to a machine type that the zone offers.  The attempts of a run use up the series that its selection
still has before it (`SeriesFallback.upcoming`): one that is repeated leaves the rest to the next.
-/

namespace ImageFlow

/-! ## What is detected -/

namespace SeriesChoice

theorem mem_available_iff {series : String} {offered : List String} :
    series ∈ available offered ↔
      series ∈ preferred ∧ ∀ shape ∈ requiredShapes, series ++ shape ∈ offered := by
  simp [available]

theorem ne_empty_of_mem_available {series : String} {offered : List String}
    (h : series ∈ available offered) : series ≠ "" := by
  rintro rfl
  exact absurd (mem_available_iff.mp h).1 (by decide)

/-- How the series that are detected depend on the machine types that are listed. -/
structure Monotone (offered : List String) : Prop where
  /-- Only the names count, and not their order or how often they are listed. -/
  same_names : ∀ other, (∀ name, name ∈ offered ↔ name ∈ other) →
    available offered = available other
  /-- More names only add series. -/
  more_names : ∀ other, offered ⊆ other → (available offered).Sublist (available other)
  /-- The order is that of preference. -/
  preferred : (available offered).Sublist preferred

theorem monotone (offered : List String) : Monotone offered where
  same_names other h := by
    apply List.filter_congr
    intro series _
    simp [h]
  more_names other h := by
    apply List.monotone_filter_right
    intro series hseries
    rw [List.all_eq_true] at hseries ⊢
    intro shape hshape
    exact List.contains_iff_mem.mpr (h (List.contains_iff_mem.mp (hseries shape hshape)))
  preferred := List.filter_sublist

end SeriesChoice

/-! ## The series that a selection uses up -/

namespace SeriesFallback

variable (s : SeriesFallback)

/-- The series that a selection still has before it: the one that is selected, and the second one if
it can ask for it. -/
def upcoming : List String :=
  s.active :: if s.armed then s.secondary.toList else []

/-- A selection that asks for another attempt goes on to the series behind the first. -/
theorem upcoming_judge {error : Option WorkflowError}
    (hasked : (s.judge error).value.retry = true) :
    (s.judge error).value.hook.upcoming = s.upcoming.tail := by
  obtain ⟨asking, secondary, hasking, hprimary, hsecondary, hfallen⟩ :=
    (Builtin.fallsOrStays_judge (.machineSeries s) error).falls hasked
  obtain rfl : s = asking := Builtin.machineSeries.inj hasking
  have hhook : (s.judge error).value.hook = { s with state := .fallenBack } :=
    Builtin.machineSeries.inj hfallen
  rw [hhook]
  simp [upcoming, active, armed, hprimary, hsecondary]

end SeriesFallback

section Selection

variable {ω : Type} {site : Site ω} {files : FileNode} {vars : Variables} {world : ω}
  {front back : List Builtin} {s : SeriesFallback} {trial : Trial Builtin}
  {trials : List (Trial Builtin)}

/-- Attempts of which all but the last are to be repeated use up the series that the selection has
before it, one after another. -/
theorem Trial.Consecutive.movedTo_upcoming
    (hpasses : ∀ hook ∈ front, hook.Passes)
    (hfront : ∀ hook ∈ front, hook.selectsSeries = false)
    (hback : ∀ hook ∈ back, hook.selectsSeries = false)
    (h : Trial.Consecutive site (Builtin.kind files) vars (front ++ .machineSeries s :: back) world
      trials)
    (hasked : ∀ trial ∈ trials.dropLast, trial.requested (Builtin.kind files) ≠ [])
    {i : Nat} (htrial : trials[i]? = some trial) :
    ∃ series, s.upcoming[i]? = some series ∧
      trial.template.MovedTo series (trial.job (Builtin.kind files)).workflow := by
  induction trials generalizing s world i with
  | nil => cases htrial
  | cons first rest ih =>
      obtain ⟨harises, hrest⟩ := h
      cases i with
      | zero =>
          cases htrial
          exact ⟨s.active, rfl, harises.movedTo_active hfront hback⟩
      | succ i =>
          -- Another attempt follows only where the selection asked for it and so has moved on.
          rw [List.getElem?_cons_succ] at htrial
          have hne : rest ≠ [] := by
            rintro rfl
            cases htrial
          rw [List.dropLast_cons_of_ne_nil hne] at hasked
          have hfirst := hasked first List.mem_cons_self
          rw [Trial.requested, harises.hooks_eq,
            Builtin.requesters_selection_ne_nil_iff files s hpasses hfront hback] at hfirst
          rw [Trial.hooksAfter, harises.hooks_eq,
            Builtin.judged_selection files s hpasses hfront hback] at hrest
          obtain ⟨series, hseries, hmoved⟩ :=
            ih hrest (fun trial hmem => hasked trial (List.mem_cons_of_mem _ hmem)) htrial
          rw [s.upcoming_judge hfirst, List.getElem?_tail] at hseries
          exact ⟨series, hseries, hmoved⟩

end Selection

/-- Every attempt but the last one that reaches the engine is to be repeated. -/
theorem History.Sound.requested_of_mem_dropLast_trials
    {η : Type} {kind : HookKind η} {left : Nat} {history : History η}
    (h : history.Sound kind left) :
    ∀ trial ∈ history.trials.dropLast, trial.requested kind ≠ [] := by
  intro trial htrial
  apply h.repeated_asked
  rw [History.trials] at htrial
  cases hlast : history.last.trial? with
  | none =>
      rw [hlast, Option.toList_none, List.append_nil] at htrial
      exact List.dropLast_subset _ htrial
  | some last =>
      rw [hlast, Option.toList_some, List.dropLast_concat] at htrial
      exact htrial

/-- A runner none of whose hooks can ask for another attempt never repeats one, in whatever
runs. -/
theorem Runner.requested_eq_nil_of_unarmed
    {ω : Type} (site : Site ω) (files : FileNode) (runner : Runner Builtin)
    (requests : List (RunRequest ω)) (hunarmed : runner.hooks.countP Builtin.armed = 0) :
    ∀ trial ∈ runner.trialsOf site (Builtin.kind files) requests,
      trial.requested (Builtin.kind files) = [] := by
  induction requests generalizing runner with
  | nil =>
      intro trial htrial
      cases htrial
  | cons request rest ih =>
      have hconsecutive := (runner.setUp request).consecutive_trials site (Builtin.kind files)
        request.vars request.world
      obtain ⟨hsum, hleft⟩ := Nat.add_eq_zero_iff.mp
        (((Builtin.budgeted_countP files).sum_add_hooksLeft hconsecutive).trans hunarmed)
      have hunasked : ((runner.served site (Builtin.kind files) request).trials.flatMap
          (·.verdicts (Builtin.kind files))).countP (·.retry) = 0 := by
        rw [List.countP_flatMap]
        exact hsum
      rw [List.countP_eq_zero] at hunasked
      intro trial htrial
      rcases List.mem_append.mp htrial with hserved | hlater
      · by_contra hasked
        obtain ⟨verdict, hverdict, hretry⟩ :=
          (trial.requested_ne_nil_iff (Builtin.kind files)).mp hasked
        exact hunasked verdict (List.mem_flatMap.mpr ⟨trial, hserved, hverdict⟩) hretry
      · refine ih _ ?_ trial hlater
        rw [hconsecutive.hooksLeft_eq] at hleft
        rw [serve, hooks_run]
        exact hleft

/-! ## The chain for a list of series -/

namespace Builtin

theorem armed_eq_false {hook : Builtin} (h : hook.selectsSeries = false) : hook.armed = false := by
  cases hook with
  | machineSeries s => cases h
  | _ => rfl

/-- The selection for a list of series has the first and the second one before it, and can ask only
if there is a second one. -/
theorem exists_seriesOf {env : Environment} {primary : String} {others : List String}
    (troubleshootingUrl : String) (hseries : env.workerMachineSeries = primary :: others)
    (hne : ∀ series ∈ others, series ≠ "") :
    ∃ s, seriesOf env troubleshootingUrl = [.machineSeries s] ∧
      s.upcoming = (primary :: others).take 2 ∧ (others = [] → s.armed = false) := by
  refine ⟨{ SeriesFallback.ofSeries primary others[0]? with troubleshootingUrl }, ?_, ?_, ?_⟩
  · simp [seriesOf, Environment.primarySeries?, Environment.secondarySeries?, hseries]
  · cases others with
    | nil => rfl
    | cons secondary others =>
        have hsecondary := hne secondary List.mem_cons_self
        simp [SeriesFallback.upcoming, SeriesFallback.active, SeriesFallback.armed,
          SeriesFallback.ofSeries, Option.filter, hsecondary]
  · rintro rfl
    rfl

end Builtin

/-! ## Runs on detected series -/

/-- Every instance of the second workflow whose machine type had one of the shapes that a run needs
has one of these machine types. -/
def Workflow.OfferedIn (offered : List String) (old new : Workflow) : Prop :=
  List.Forall₂
    (fun i j : Instance => ∀ series shape, i.machineType = series ++ shape → '-' ∉ series.toList →
      shape ∈ SeriesChoice.requiredShapes → j.machineType ∈ offered)
    old.allInstances new.allInstances

theorem SeriesChoice.exists_toList_shape {shape : String} (h : shape ∈ requiredShapes) :
    ∃ rest, shape.toList = '-' :: rest := by
  simp only [requiredShapes, List.mem_cons, List.not_mem_nil, or_false] at h
  rcases h with rfl | rfl | rfl | rfl <;> exact ⟨_, rfl⟩

/-- In a series that is available, every machine type of such a shape is offered. -/
theorem Workflow.MovedTo.offeredIn {series : String} {offered : List String} {old new : Workflow}
    (h : old.MovedTo series new) (hseries : series ∈ SeriesChoice.available offered) :
    old.OfferedIn offered new := by
  refine h.imp ?_
  rintro i j ⟨-, hmoved⟩ other shape hsplit hother hshape
  obtain ⟨rest, hrest⟩ := SeriesChoice.exists_toList_shape hshape
  have htype : i.machineType.toList = other.toList ++ '-' :: rest := by
    rw [hsplit, String.toList_append, hrest]
  have hnew : j.machineType = series ++ shape := by
    apply String.toList_injective
    rw [hmoved.dashed other.toList rest htype hother, String.toList_append, hrest]
  rw [hnew]
  exact (SeriesChoice.mem_available_iff.mp hseries).2 shape hshape

/-- Hooks that select no series leave all machines as they are in the template. -/
theorem Trial.machines_job
    {files : FileNode} {trial : Trial Builtin}
    (hothers : ∀ hook ∈ trial.hooks, hook.selectsSeries = false) :
    (trial.job (Builtin.kind files)).workflow.machines = trial.template.machines := by
  rw [Trial.job, leftBy, Builtin.machines_foldl_prepare files hothers]
  rfl

/-- How the first run of a runner goes whose series were detected where these machine types are
offered. -/
structure RunsOnDetected {ω : Type} (site : Site ω) (kind : HookKind Builtin)
    (runner : Runner Builtin) (request : RunRequest ω) (offered : List String) : Prop where
  /-- The engine is handed the jobs of these attempts. -/
  jobs_eq : (runner.serve site kind request).calls.filterMap RunCall.job? =
    (runner.served site kind request).trials.map (·.job kind)
  /-- There are no more than two, on the first and on the second series. -/
  in_order : SeriesChoice.available offered ≠ [] →
    ∀ i trial, (runner.served site kind request).trials[i]? = some trial →
      i < 2 ∧ ∃ series, (SeriesChoice.available offered)[i]? = some series ∧
        trial.template.MovedTo series (trial.job kind).workflow
  /-- Where a run needs a machine type of some shape, it uses one that is offered. -/
  offeredIn : SeriesChoice.available offered ≠ [] →
    ∀ trial ∈ (runner.served site kind request).trials,
      trial.template.OfferedIn offered (trial.job kind).workflow
  /-- With one series alone, nobody asks for another attempt, in whatever runs. -/
  one_series : (SeriesChoice.available offered).length = 1 →
    ∀ requests, ∀ trial ∈ runner.trialsOf site kind requests, trial.requested kind = []
  /-- Without a series, every machine type stays as it is. -/
  no_series : SeriesChoice.available offered = [] →
    ∀ trial ∈ (runner.served site kind request).trials,
      (trial.job kind).workflow.machines = trial.template.machines

namespace Runner

variable {ω : Type} (site : Site ω) (files : FileNode) {env : Environment} (random : Nat)
  (troubleshootingUrl : String) (setting : Nat) (request : RunRequest ω) {offered : List String}

theorem exists_hooks_of_detected {primary : String} {others : List String}
    (hseries : env.workerMachineSeries = SeriesChoice.available offered)
    (hfound : SeriesChoice.available offered = primary :: others) :
    ∃ s front back,
      (withDefaults env random id troubleshootingUrl setting []).hooks =
        front ++ .machineSeries s :: back ∧
      (∀ hook ∈ front, hook.Passes) ∧ (∀ hook ∈ front, hook.selectsSeries = false) ∧
      (∀ hook ∈ back, hook.selectsSeries = false) ∧
      s.upcoming = (SeriesChoice.available offered).take 2 ∧ (others = [] → s.armed = false) := by
  let given := env.withExecutionId random
  have hgiven : given.workerMachineSeries = primary :: others :=
    (env.workerMachineSeries_withExecutionId random).trans (hseries.trans hfound)
  have hne : ∀ series ∈ others, series ≠ "" := by
    intro series hmem
    have havailable : series ∈ SeriesChoice.available offered := by
      rw [hfound]
      exact List.mem_cons_of_mem _ hmem
    exact SeriesChoice.ne_empty_of_mem_available havailable
  obtain ⟨s, hselection, hupcoming, harmed⟩ :=
    Builtin.exists_seriesOf troubleshootingUrl hgiven hne
  refine ⟨s, Builtin.leading given, Builtin.trailing given, ?_,
    fun _ => Builtin.passes_of_mem_leading, fun _ => Builtin.selectsSeries_of_mem_leading,
    fun _ => Builtin.selectsSeries_of_mem_trailing, by rw [hupcoming, hfound], harmed⟩
  simp [withDefaults, Builtin.defaults_eq, hselection, given]

theorem selectsSeries_of_undetected
    (hseries : env.workerMachineSeries = SeriesChoice.available offered)
    (hfound : SeriesChoice.available offered = []) :
    ∀ hook ∈ (withDefaults env random id troubleshootingUrl setting []).hooks,
      hook.selectsSeries = false := by
  let given := env.withExecutionId random
  have hgiven : given.workerMachineSeries = [] :=
    (env.workerMachineSeries_withExecutionId random).trans (hseries.trans hfound)
  have hhooks : (withDefaults env random id troubleshootingUrl setting []).hooks =
      Builtin.leading given ++ Builtin.trailing given := by
    simp [withDefaults, Builtin.defaults_eq, Builtin.seriesOf, Environment.primarySeries?, hgiven,
      given]
  rw [hhooks]
  intro hook hhook
  rcases List.mem_append.mp hhook with hleading | htrailing
  · exact Builtin.selectsSeries_of_mem_leading hleading
  · exact Builtin.selectsSeries_of_mem_trailing htrailing

/-- The first run of a runner that is built for the series that were detected. -/
theorem runsOnDetected (hseries : env.workerMachineSeries = SeriesChoice.available offered) :
    RunsOnDetected site (Builtin.kind files)
      (withDefaults env random id troubleshootingUrl setting []) request offered := by
  let runner : Runner Builtin := withDefaults env random id troubleshootingUrl setting []
  have hconsecutive := (runner.setUp request).consecutive_trials site (Builtin.kind files)
    request.vars request.world
  have horder : SeriesChoice.available offered ≠ [] →
      ∀ i trial, (runner.served site (Builtin.kind files) request).trials[i]? = some trial →
        i < 2 ∧ ∃ series, (SeriesChoice.available offered)[i]? = some series ∧
          trial.template.MovedTo series (trial.job (Builtin.kind files)).workflow := by
    intro hne i trial htrial
    obtain ⟨primary, others, hfound⟩ := List.exists_cons_of_ne_nil hne
    obtain ⟨s, front, back, hhooks, hpasses, hfront, hback, hupcoming, -⟩ :=
      exists_hooks_of_detected random troubleshootingUrl setting hseries hfound
    have hselection : (runner.setUp request).hooks = front ++ .machineSeries s :: back := hhooks
    rw [hselection] at hconsecutive
    have hasked := ((runner.setUp request).history_sound site (Builtin.kind files) request.vars
      request.world).requested_of_mem_dropLast_trials
    obtain ⟨series, hmem, hmoved⟩ :=
      hconsecutive.movedTo_upcoming hpasses hfront hback hasked htrial
    rw [hupcoming, List.getElem?_take] at hmem
    split at hmem
    · next hlt => exact ⟨hlt, series, hmem, hmoved⟩
    · cases hmem
  constructor
  case jobs_eq =>
    rw [serve, run_calls, History.filterMap_job?_calls]
    rfl
  case in_order => exact horder
  case offeredIn =>
    intro hne trial htrial
    obtain ⟨i, hi⟩ := List.mem_iff_getElem?.mp htrial
    obtain ⟨-, series, hseries, hmoved⟩ := horder hne i trial hi
    exact hmoved.offeredIn (List.mem_of_getElem? hseries)
  case one_series =>
    intro hone requests
    obtain ⟨primary, hfound⟩ := List.length_eq_one_iff.mp hone
    obtain ⟨s, front, back, hhooks, -, hfront, hback, -, hunarmed⟩ :=
      exists_hooks_of_detected random troubleshootingUrl setting hseries hfound
    apply runner.requested_eq_nil_of_unarmed
    rw [List.countP_eq_zero]
    intro hook hhook
    have hmem : hook ∈ front ++ .machineSeries s :: back := hhooks ▸ hhook
    rcases List.mem_append.mp hmem with hmem | hmem
    · simp [Builtin.armed_eq_false (hfront hook hmem)]
    · rcases List.mem_cons.mp hmem with rfl | hmem
      · simp [Builtin.armed, hunarmed rfl]
      · simp [Builtin.armed_eq_false (hback hook hmem)]
  case no_series =>
    intro hnone trial htrial
    have hothers : ∀ hook ∈ (runner.setUp request).hooks, hook.selectsSeries = false :=
      selectsSeries_of_undetected random troubleshootingUrl setting hseries hnone
    have hjudged (hooks : List Builtin) (error : Option WorkflowError)
        (hothers : ∀ hook ∈ hooks, hook.selectsSeries = false) :
        ∀ hook ∈ judged (Builtin.kind files) hooks error, hook.selectsSeries = false := by
      rwa [Builtin.judged_of_not_selectsSeries files hothers]
    exact Trial.machines_job (hconsecutive.of_judged hjudged hothers trial htrial)

end Runner

/-! ## From the listing to the run -/

/-- Series that were left blank are those that are available in the listing of the zone. -/
theorem Parameters.FilledIn.exists_offered {q p : Parameters} {replies : List CloudReply}
    (h : q.FilledIn p replies) (hblank : q.workerMachineSeries = []) :
    ∃ offered, ⟨.machineTypes p.project p.zone, .ok offered⟩ ∈ replies ∧
      p.workerMachineSeries = SeriesChoice.available offered := by
  cases h with
  | intro _ _ _ _ _ hseries =>
      cases hseries with
      | given hgiven => exact absurd hblank hgiven
      | detected _ offered => exact ⟨offered, by simp, rfl⟩

/-- Detection and the moves to the detected series agree.  Where a resolution is left to find the
series, and a runner is built for what it leaves behind, the series are those that are available in
the listing of the zone, and the first run of the runner uses the first and then the second of them,
so that each instance of a shape that a run needs has a machine type of that listing. -/
theorem detected_series_are_offered
    {ω υ : Type} (cloud : Cloud ω) (q : Parameters) (world : ω)
    {resolved : Resolved (ω × List CloudReply)} (site : Site υ) (files : FileNode) (random : Nat)
    (troubleshootingUrl : String) (setting : Nat) (request : RunRequest υ)
    (hresolved : q.resolve cloud.transcribed (.ofCloud cloud.transcribed) (world, []) = resolved)
    (hok : resolved.result = .ok ()) (hblank : q.workerMachineSeries = []) :
    let env := resolved.params.toEnvironment
    let runner := Runner.withDefaults env random id troubleshootingUrl setting []
    ∃ offered,
      ⟨.machineTypes resolved.params.project resolved.params.zone, .ok offered⟩ ∈
          resolved.world.2 ∧
        resolved.params.workerMachineSeries = SeriesChoice.available offered ∧
        SeriesChoice.Monotone offered ∧
        RunsOnDetected site (Builtin.kind files) runner request offered := by
  intro env runner
  subst hresolved
  obtain ⟨offered, hmem, hseries⟩ :=
    (Parameters.filledIn_of_resolve hok).exists_offered hblank
  exact ⟨offered, hmem, hseries, SeriesChoice.monotone offered,
    Runner.runsOnDetected site files random troubleshootingUrl setting request hseries⟩

/-- A cloud with one zone, which offers the series `n1` and `n2` in every shape. -/
def twoSeriesCloud : Cloud Unit := fun call _ =>
  match call with
  | .metadataProject => (.ok "meta", ())
  | .createBucket .. => (.ok (), ())
  | .zones _ => (.ok [⟨"us-central1-b", "UP"⟩], ())
  | .machineTypes .. =>
    (.ok (["n1", "n2"].flatMap fun series => SeriesChoice.requiredShapes.map (series ++ ·)), ())
  | _ => (.error .network, ())

/-- What `twoSeriesCloud` makes of blank parameters. -/
def twoSeriesResolved : Resolved (Unit × List CloudReply) :=
  ({} : Parameters).resolve twoSeriesCloud.transcribed (.ofCloud twoSeriesCloud.transcribed)
    ((), [])

/-- The two series that `twoSeriesCloud` offers, and a run that exhausts the quota of the first. -/
theorem detected_series_are_offered_n2_n1 :
    (twoSeriesResolved.result = .ok () ∧
      twoSeriesResolved.params.workerMachineSeries = ["n2", "n1"]) ∧
    ∃ offered,
      ⟨.machineTypes twoSeriesResolved.params.project twoSeriesResolved.params.zone,
          .ok offered⟩ ∈ twoSeriesResolved.world.2 ∧
        twoSeriesResolved.params.workerMachineSeries = SeriesChoice.available offered ∧
        SeriesChoice.Monotone offered ∧
        RunsOnDetected (.scripted oneWorker) (Builtin.kind default)
          (.withDefaults twoSeriesResolved.params.toEnvironment 0 id "" 3 []) exhaustedRun
          offered := by
  have hfound : twoSeriesResolved.result = .ok () ∧
      twoSeriesResolved.params.workerMachineSeries = ["n2", "n1"] := by
    decide +kernel
  have hresolved : ({} : Parameters).resolve twoSeriesCloud.transcribed
      (.ofCloud twoSeriesCloud.transcribed) ((), []) = twoSeriesResolved := rfl
  exact ⟨hfound, detected_series_are_offered twoSeriesCloud {} () (.scripted oneWorker) default 0 ""
    3 exhaustedRun hresolved hfound.1 rfl⟩

end ImageFlow
