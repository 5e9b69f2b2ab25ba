import ImageFlow.Proofs.Hook.SeriesChain

/-!
# Falling back to the second series

A run whose hooks select a machine series makes its first attempt on the first series.  It is
repeated, on the second series and once, exactly when the engine reported that the quota of the
first one is exhausted, whatever the hooks behind the selection make of that error; in every other
case the first attempt is the last.  `FallsBackOnce` says what the run shows in each case, and the
main statement is about the chain that every run gets.
-/

namespace ImageFlow

variable {η ω : Type}

/-! ## Reading a history off its first attempt -/

section First

variable {site : Site ω} {kind : HookKind η} {vars : Variables} {left : Nat} {hooks : List η}
  {world : ω}

/-- Attempts that do not fail to load or to prepare begin with one that reaches the engine. -/
theorem exists_arises_of_smooth
    (hsmooth : (historyFrom site kind vars left hooks false world).Smooth) :
    ∃ trial : Trial η, trial.Arises site kind vars hooks world := by
  rw [historyFrom] at hsmooth
  cases hloaded : (site.load world).1 with
  | error failure =>
      simp only [hloaded, Bool.false_eq_true, if_false] at hsmooth
      exact hsmooth.elim
  | ok template =>
      cases hprepared : (prepareAll kind 0 hooks (.ofWorkflow template)).failure with
      | some found =>
          simp only [hloaded, hprepared, Bool.false_eq_true, if_false] at hsmooth
          exact hsmooth.elim
      | none =>
          have hall := (failure_prepareAll_eq_none_iff kind 0 hooks _).mp hprepared
          exact exists_arises site kind vars hloaded hall

variable {trial : Trial η} (harises : trial.Arises site kind vars hooks world)

include harises

theorem historyFrom_of_unrequested (hunasked : trial.requested kind = []) :
    historyFrom site kind vars left hooks false world = ⟨[], .settled trial⟩ := by
  simp [historyFrom_of_arises site kind vars left harises, hunasked]

theorem historyFrom_zero (hasked : trial.requested kind ≠ []) :
    historyFrom site kind vars 0 hooks false world = ⟨[], .limited trial⟩ := by
  simp [historyFrom_of_arises site kind vars 0 harises, hasked]

theorem historyFrom_succ (hasked : trial.requested kind ≠ []) :
    historyFrom site kind vars (left + 1) hooks false world =
      (historyFrom site kind vars left (trial.hooksAfter kind) trial.execution.cancels
        (trial.worldAfter site kind vars world)).following trial := by
  simp [historyFrom_of_arises site kind vars (left + 1) harises, hasked]

/-- The attempt is among those of the history. -/
theorem mem_trials_historyFrom :
    trial ∈ (historyFrom site kind vars left hooks false world).trials := by
  by_cases hasked : trial.requested kind = []
  · rw [historyFrom_of_unrequested harises hasked]
    exact List.mem_cons_self
  · cases left with
    | zero =>
        rw [historyFrom_zero harises hasked]
        exact List.mem_cons_self
    | succ left =>
        rw [historyFrom_succ harises hasked]
        exact List.mem_cons_self

end First

/-- A run handed these jobs to the engine, in this order, and came to this result. -/
structure Runner.Outcome.Shows (outcome : Runner.Outcome η ω) (jobs : List Job)
    (result : Except RunError (OrderedMap String)) : Prop where
  jobs_eq : outcome.calls.filterMap RunCall.job? = jobs
  result_eq : outcome.result.map RunReport.outputs = result

theorem Runner.run_shows
    (site : Site ω) (kind : HookKind η) (runner : Runner η) (vars : Variables)
    (names : List String) (world : ω) {history : History η}
    (hhistory : runner.history site kind vars world = history) :
    (runner.run site kind vars names world).Shows (history.trials.map (·.job kind))
      (history.result kind names 1) := by
  subst hhistory
  constructor
  · rw [run_calls, History.filterMap_job?_calls]
  · exact runner.run_result site kind vars names world

/-! ## Attempts of a chain -/

/-- A selection moves every machine type to the series that it is at. -/
theorem Trial.Arises.movedTo_active
    {site : Site ω} {files : FileNode} {vars : Variables} {world : ω} {trial : Trial Builtin}
    {front back : List Builtin} {s : SeriesFallback}
    (hfront : ∀ hook ∈ front, hook.selectsSeries = false)
    (hback : ∀ hook ∈ back, hook.selectsSeries = false)
    (h : trial.Arises site (Builtin.kind files) vars (front ++ .machineSeries s :: back) world) :
    trial.template.MovedTo s.active (trial.job (Builtin.kind files)).workflow := by
  apply Workflow.movedTo_of_machines_eq
  rw [Trial.job, h.hooks_eq]
  exact Builtin.machines_leftBy_selection files s hfront hback trial.template

namespace Trial.Arises

variable {site : Site ω} {files : FileNode} {vars : Variables} {chain : SeriesChain}
  {state : FallbackState} {world : ω} {trial : Trial Builtin}
  (h : trial.Arises site (Builtin.kind files) vars (chain.hooks state) world)

include h

theorem movedTo :
    trial.template.MovedTo (chain.series state) (trial.job (Builtin.kind files)).workflow := by
  rw [← chain.active_selection]
  exact Trial.Arises.movedTo_active chain.front_others chain.back_others h

theorem requested_ne_nil_iff :
    trial.requested (Builtin.kind files) ≠ [] ↔
      state = .primary ∧ Quota.Reported chain.primary trial.execution.error := by
  rw [Trial.requested, h.hooks_eq]
  exact chain.requesters_hooks_ne_nil_iff state files trial.execution.error

theorem hooksAfter_eq :
    trial.hooksAfter (Builtin.kind files) =
      chain.hooks (chain.after state trial.execution.error) := by
  rw [Trial.hooksAfter, h.hooks_eq]
  exact chain.judged_hooks state files trial.execution.error

theorem error_eq :
    trial.error (Builtin.kind files) =
      handedOn (Builtin.kind files) chain.back trial.execution.error := by
  rw [Trial.error, h.hooks_eq]
  exact chain.handedOn_hooks state files trial.execution.error

theorem outcome_eq (names : List String) :
    trial.outcome (Builtin.kind files) names =
      trial.execution.outcome (handedOn (Builtin.kind files) chain.back) names := by
  rw [Trial.outcome_eq, h.error_eq]
  rfl

end Trial.Arises

/-! ## Runs of a chain -/

theorem Environment.workerMachineSeries_withExecutionId (env : Environment) (random : Nat) :
    (env.withExecutionId random).workerMachineSeries = env.workerMachineSeries := by
  rw [withExecutionId]
  split <;> rfl

/-- How a run goes that selects the series `primary` first and can fall back to `secondary`, told by
its first attempt.  `handed` is what the hooks behind the selection make of an error. -/
structure FallsBackOnce (site : Site ω) (kind : HookKind η) (vars : Variables)
    (names : List String) (hooks : List η)
    (handed : Option WorkflowError → Option WorkflowError) (primary secondary : String)
    (maxAttempts : Nat) (world : ω) (outcome : Runner.Outcome η ω) (first : Trial η) :
    Prop where
  /-- The first attempt is executed on the first series. -/
  arises : first.Arises site kind vars hooks world
  moved : first.template.MovedTo primary (first.job kind).workflow
  /-- It is to be repeated exactly when the engine reported that series' quota as exhausted. -/
  requested_iff : first.requested kind ≠ [] ↔ Quota.Reported primary first.execution.error
  /-- It is the only one, and settles the run, if it is not to be repeated. -/
  unrequested : first.requested kind = [] →
    outcome.Shows [first.job kind] (first.execution.outcome handed names)
  /-- It is the only one if no other attempt is allowed. -/
  limited : first.requested kind ≠ [] → maxAttempts ≤ 1 →
    outcome.Shows [first.job kind]
      (.error (.attemptLimit 1 (handed first.execution.error)))
  /-- It is the only one if the token was fired before it could be repeated. -/
  cancelled : first.requested kind ≠ [] → 2 ≤ maxAttempts → first.execution.cancels = true →
    outcome.Shows [first.job kind] (.error (.cancelled 2))
  /-- It is repeated once, on the second series, from a template that is loaded anew. -/
  repeated : first.requested kind ≠ [] → 2 ≤ maxAttempts → first.execution.cancels = false →
    ∃ second : Trial η,
      second.Arises site kind vars (first.hooksAfter kind)
        (first.worldAfter site kind vars world) ∧
      second.template.MovedTo secondary (second.job kind).workflow ∧
      outcome.Shows [first.job kind, second.job kind]
        (second.execution.outcome handed names)

namespace SeriesChain

variable (chain : SeriesChain) (site : Site ω) (files : FileNode) (runner : Runner Builtin)
  (vars : Variables) (names : List String) (world : ω)

/-- A run of a chain is smooth if every template that the site loads is prepared by the chain in
both of its states. -/
theorem history_smooth
    {state : FallbackState} (hhooks : runner.hooks = chain.hooks state)
    (hserved : ∀ state world, ∃ template, (site.load world).1 = .ok template ∧
      AllPrepare (Builtin.kind files) (chain.hooks state) (.ofWorkflow template)) :
    (runner.history site (Builtin.kind files) vars world).Smooth := by
  have hunfolds := runner.unfolds site (Builtin.kind files) vars [] world
  refine hunfolds.smooth (fun hooks => ∃ state, hooks = chain.hooks state) ?_ ?_ ?_
  · rintro hooks error ⟨state, rfl⟩
    exact ⟨_, chain.judged_hooks state files error⟩
  · rintro hooks world ⟨state, rfl⟩
    exact hserved state world
  · exact ⟨state, hhooks⟩

/-- A run that begins on the second series executes one attempt, whatever comes of it. -/
theorem run_fallenBack
    (hhooks : runner.hooks = chain.hooks .fallenBack) (hunfired : runner.cancelled = false)
    (hsmooth : (runner.history site (Builtin.kind files) vars world).Smooth) :
    ∃ first : Trial Builtin,
      first.Arises site (Builtin.kind files) vars runner.hooks world ∧
      first.template.MovedTo chain.secondary (first.job (Builtin.kind files)).workflow ∧
      first.requested (Builtin.kind files) = [] ∧
      (runner.run site (Builtin.kind files) vars names world).Shows
        [first.job (Builtin.kind files)]
        (first.execution.outcome (handedOn (Builtin.kind files) chain.back) names) := by
  rw [Runner.history, hunfired] at hsmooth
  obtain ⟨first, harises⟩ := exists_arises_of_smooth hsmooth
  have hchain := harises
  rw [hhooks] at hchain
  have hunasked : first.requested (Builtin.kind files) = [] := by
    by_contra hasked
    exact absurd (hchain.requested_ne_nil_iff.mp hasked).1 (by decide)
  refine ⟨first, harises, hchain.movedTo, hunasked, ?_⟩
  have hhistory : runner.history site (Builtin.kind files) vars world = ⟨[], .settled first⟩ := by
    rw [Runner.history, hunfired]
    exact historyFrom_of_unrequested harises hunasked
  rw [← hchain.outcome_eq]
  exact runner.run_shows site (Builtin.kind files) vars names world hhistory

/-- The attempts after one that is to be repeated: there is one more, on the second series. -/
theorem exists_second
    {first : Trial Builtin} {left : Nat}
    (harises : first.Arises site (Builtin.kind files) vars (chain.hooks .primary) world)
    (hasked : first.requested (Builtin.kind files) ≠ [])
    (hsmooth : (historyFrom site (Builtin.kind files) vars left
      (first.hooksAfter (Builtin.kind files)) false
      (first.worldAfter site (Builtin.kind files) vars world)).Smooth) :
    ∃ second : Trial Builtin,
      second.Arises site (Builtin.kind files) vars (first.hooksAfter (Builtin.kind files))
        (first.worldAfter site (Builtin.kind files) vars world) ∧
      second.template.MovedTo chain.secondary (second.job (Builtin.kind files)).workflow ∧
      historyFrom site (Builtin.kind files) vars left (first.hooksAfter (Builtin.kind files)) false
        (first.worldAfter site (Builtin.kind files) vars world) = ⟨[], .settled second⟩ ∧
      second.outcome (Builtin.kind files) names =
        second.execution.outcome (handedOn (Builtin.kind files) chain.back) names := by
  have hreported := (harises.requested_ne_nil_iff.mp hasked).2
  have hstate : chain.after .primary first.execution.error = .fallenBack :=
    (chain.after_eq_fallenBack_iff .primary first.execution.error).mpr (.inr hreported)
  obtain ⟨second, hsecond⟩ := exists_arises_of_smooth hsmooth
  have hchain := hsecond
  rw [harises.hooksAfter_eq, hstate] at hchain
  have hunasked : second.requested (Builtin.kind files) = [] := by
    by_contra hasked
    exact absurd (hchain.requested_ne_nil_iff.mp hasked).1 (by decide)
  exact ⟨second, hsecond, hchain.movedTo, historyFrom_of_unrequested hsecond hunasked,
    hchain.outcome_eq names⟩

/-- A run that begins on the first series falls back once. -/
theorem run_primary
    (hhooks : runner.hooks = chain.hooks .primary) (hunfired : runner.cancelled = false)
    (hsmooth : (runner.history site (Builtin.kind files) vars world).Smooth) :
    ∃ first : Trial Builtin,
      FallsBackOnce site (Builtin.kind files) vars names runner.hooks
        (handedOn (Builtin.kind files) chain.back) chain.primary chain.secondary
        runner.maxAttempts world
        (runner.run site (Builtin.kind files) vars names world) first := by
  have hstart : runner.history site (Builtin.kind files) vars world =
      historyFrom site (Builtin.kind files) vars (runner.maxAttempts - 1) runner.hooks false
        world := by
    rw [Runner.history, hunfired]
  have hshows {history : History Builtin}
      (hhistory : runner.history site (Builtin.kind files) vars world = history) :=
    runner.run_shows site (Builtin.kind files) vars names world hhistory
  rw [hstart] at hsmooth
  obtain ⟨first, harises⟩ := exists_arises_of_smooth hsmooth
  have hchain := harises
  rw [hhooks] at hchain
  refine ⟨first, harises, hchain.movedTo, ?_, ?_, ?_, ?_, ?_⟩
  · simpa using hchain.requested_ne_nil_iff
  · intro hunasked
    rw [← hchain.outcome_eq]
    exact hshows (hstart.trans (historyFrom_of_unrequested harises hunasked))
  · intro hasked hlimit
    rw [Nat.sub_eq_zero_of_le hlimit] at hstart
    rw [← hchain.error_eq]
    exact hshows (hstart.trans (historyFrom_zero harises hasked))
  · intro hasked hlimit hcancels
    obtain ⟨left, hleft⟩ := Nat.exists_eq_add_of_le' (Nat.le_sub_one_of_lt hlimit)
    rw [hleft, historyFrom_succ harises hasked, hcancels, historyFrom] at hstart
    exact hshows hstart
  · intro hasked hlimit hcancels
    obtain ⟨left, hleft⟩ := Nat.exists_eq_add_of_le' (Nat.le_sub_one_of_lt hlimit)
    rw [hleft, historyFrom_succ harises hasked, hcancels] at hsmooth hstart
    obtain ⟨second, hsecond, hmoved, hhistory, houtcome⟩ :=
      chain.exists_second site files vars names world hchain hasked hsmooth
    refine ⟨second, hsecond, hmoved, ?_⟩
    rw [← houtcome]
    rw [hhistory] at hstart
    exact hshows hstart

/-- The chain that every run gets, with further hooks behind it. -/
def ofEnvironment (env : Environment) (troubleshootingUrl primary secondary : String)
    (hprimary : primary ≠ "") (extra : List Builtin)
    (hextra : ∀ hook ∈ extra, hook.selectsSeries = false) : SeriesChain where
  front := [.environment env, .labels env, .network env.network env.subnet]
  back := (if env.nestedVirtualization then [.nestedVirtualization] else []) ++ extra
  primary := primary
  secondary := secondary
  troubleshootingUrl := troubleshootingUrl
  front_passes := fun _ hhook => Builtin.passes_of_mem_leading hhook
  front_others := fun _ hhook => Builtin.selectsSeries_of_mem_leading hhook
  back_others := by
    intro hook hhook
    rcases List.mem_append.mp hhook with htrailing | hhook
    · exact Builtin.selectsSeries_of_mem_trailing htrailing
    · exact hextra hook hhook
  primary_ne_empty := hprimary

section OfEnvironment

variable (env : Environment) (random : Nat) (troubleshootingUrl : String)
  {primary secondary : String} {others : List String} (hprimary : primary ≠ "")
  {extra : List Builtin}
  (hextra : ∀ hook ∈ extra, hook.selectsSeries = false)

theorem hooks_withDefaults
    (hseries : env.workerMachineSeries = primary :: secondary :: others)
    (hsecondary : secondary ≠ "") (setting : Nat) :
    (Runner.withDefaults env random id troubleshootingUrl setting extra).hooks =
      (ofEnvironment (env.withExecutionId random) troubleshootingUrl primary secondary hprimary
        extra hextra).hooks .primary := by
  have hkept := env.workerMachineSeries_withExecutionId random
  rw [hseries] at hkept
  have hselection : Builtin.seriesOf (env.withExecutionId random) troubleshootingUrl =
      [.machineSeries ⟨primary, some secondary, .primary, troubleshootingUrl⟩] := by
    simp [Builtin.seriesOf, Environment.primarySeries?, Environment.secondarySeries?, hkept,
      SeriesFallback.ofSeries, Option.filter, hsecondary]
  simp [Runner.withDefaults, Builtin.defaults, hselection, hooks, selection, ofEnvironment]

theorem handedOn_back_ofEnvironment (files : FileNode) :
    handedOn (Builtin.kind files) (ofEnvironment env troubleshootingUrl primary secondary hprimary
      extra hextra).back = handedOn (Builtin.kind files) extra := by
  funext error
  rw [ofEnvironment, handedOn_append]
  split
  · rfl
  · rfl

end OfEnvironment

end SeriesChain

/-- A site that loads one template again and again, and executes jobs with these errors, each with
whether the token is fired meanwhile; when none is left, every job succeeds. -/
def Site.scripted (template : Workflow) : Site (List (Option WorkflowError × Bool)) where
  load world := (.ok template, world)
  execute
    | job, _, _, [] => ({ job }, [])
    | job, _, _, (error, cancels) :: rest => ({ job, error, cancels }, rest)
  now _ := 0

/-- A workflow with one step, which creates one instance. -/
def oneWorker : Workflow where
  steps := [("create", { work := { instances := some { instances :=
    [{ name := "worker", machineType := "e2-standard-2" }] } } })]

/-- The failure that reports an exhausted CPU quota of the series `n2`. -/
def n2QuotaError : WorkflowError :=
  .engine "Quota 'N2_CPUS' exceeded" none

/-- The failure that reports an exhausted CPU quota of the series `n2d`. -/
def n2dQuotaError : WorkflowError :=
  .engine "Quota 'N2D_CPUS' exceeded" none

theorem reported_n2QuotaError : Quota.Reported "n2" (some n2QuotaError) := by
  have hexhausted : Quota.isExhausted n2QuotaError "n2" = true := by decide +kernel
  exact ⟨n2QuotaError, rfl, ((Quota.isExhausted_iff n2QuotaError "n2").mp hexhausted).2⟩

theorem not_reported_n2dQuotaError : ¬Quota.Reported "n2" (some n2dQuotaError) := by
  rintro ⟨failure, hfailure, hnamed⟩
  obtain rfl := Option.some.inj hfailure
  have hexhausted : Quota.isExhausted n2dQuotaError "n2" = true :=
    (Quota.isExhausted_iff n2dQuotaError "n2").mpr ⟨by decide, hnamed⟩
  exact absurd hexhausted (by decide +kernel)

namespace Runner

/-- The fallback of a fresh runner, end to end.  It has the chain that every run gets, with a first
and a second series, and further hooks that select no series.  A run in which every template is
loaded and prepared makes its first attempt on the first series, at every depth; repeats it exactly
when the engine reported that the quota of that series is exhausted, whatever the further hooks make
of the error; and does so once, on the second series, if an attempt is left and the token is not
fired.  The outcome is that of the last execution as the further hooks hand it on. -/
theorem fresh_run_falls_back_once
    (site : Site ω) (files : FileNode) (env : Environment) (random : Nat)
    (troubleshootingUrl : String) (setting : Nat) {primary secondary : String}
    {others : List String} {extra : List Builtin} (vars : Variables) (names : List String)
    (world : ω)
    (hseries : env.workerMachineSeries = primary :: secondary :: others)
    (hprimary : primary ≠ "") (hsecondary : secondary ≠ "")
    (hextra : ∀ hook ∈ extra, hook.selectsSeries = false)
    (hsmooth : ((withDefaults env random id troubleshootingUrl setting extra).history site
      (Builtin.kind files) vars world).Smooth) :
    let kind := Builtin.kind files
    let runner := withDefaults env random id troubleshootingUrl setting extra
    ∃ first : Trial Builtin,
      FallsBackOnce site kind vars names runner.hooks (handedOn kind extra) primary secondary
        (max 1 setting) world (runner.run site kind vars names world) first := by
  intro kind runner
  let chain := SeriesChain.ofEnvironment (env.withExecutionId random) troubleshootingUrl primary
    secondary hprimary extra hextra
  have hhooks : runner.hooks = chain.hooks .primary :=
    SeriesChain.hooks_withDefaults env random troubleshootingUrl hprimary hextra hseries hsecondary
      setting
  have hback : handedOn kind chain.back = handedOn kind extra :=
    SeriesChain.handedOn_back_ofEnvironment (env.withExecutionId random) troubleshootingUrl
      hprimary hextra files
  obtain ⟨first, hfirst⟩ :=
    chain.run_primary site files runner vars names world hhooks rfl hsmooth
  rw [hback] at hfirst
  exact ⟨first, hfirst⟩

/-- When the engine reports the exhausted quota of `n2`, the run is repeated on the second series.
When it reports the one of `n2d`, it is not, and its failure is that of the run. -/
theorem fresh_run_falls_back_once_from_n2_to_n1 :
    let site := Site.scripted oneWorker
    let kind := Builtin.kind default
    let runner := withDefaults { workerMachineSeries := ["n2", "n1"] } 0 id "" 3
      [.releaseCheck "debian-9" none]
    let outcome := runner.run site kind ∅ [] [(some n2QuotaError, false)]
    let other := runner.run site kind ∅ [] [(some n2dQuotaError, false)]
    (∃ first second : Trial Builtin,
      oneWorker.MovedTo "n2" (first.job kind).workflow ∧
      oneWorker.MovedTo "n1" (second.job kind).workflow ∧
      outcome.calls.filterMap RunCall.job? = [first.job kind, second.job kind]) ∧
    ∃ only : Trial Builtin,
      oneWorker.MovedTo "n2" (only.job kind).workflow ∧
      other.Shows [only.job kind] (.error (.workflow n2dQuotaError)) := by
  intro site kind runner outcome other
  have hextra : ∀ hook ∈ [Builtin.releaseCheck "debian-9" none], hook.selectsSeries = false := by
    simp [Builtin.selectsSeries]
  have hsmooth (world : List (Option WorkflowError × Bool)) :
      (runner.history site kind ∅ world).Smooth := by
    apply SeriesChain.history_smooth _ site default runner ∅ _
      (SeriesChain.hooks_withDefaults _ 0 "" (by decide) hextra rfl (by decide) 3)
    intro state world
    exact ⟨oneWorker, rfl, by cases state <;> exact ⟨rfl, rfl, rfl, rfl, rfl, trivial⟩⟩
  have htemplate {hooks : List Builtin} {world : List (Option WorkflowError × Bool)}
      {trial : Trial Builtin} (h : trial.Arises site kind ∅ hooks world) :
      trial.template = oneWorker :=
    (Except.ok.inj h.loaded).symm
  constructor
  · obtain ⟨first, hfirst⟩ := fresh_run_falls_back_once site default _ 0 "" 3 ∅ []
      [(some n2QuotaError, false)] rfl (by decide) (by decide) hextra (hsmooth _)
    have hexecution : first.execution =
        { job := first.job kind, error := some n2QuotaError } := hfirst.arises.executed
    have hrequested : first.requested kind ≠ [] :=
      hfirst.requested_iff.mpr (by rw [hexecution]; exact reported_n2QuotaError)
    obtain ⟨second, hsecond, hmoved, hshows⟩ :=
      hfirst.repeated hrequested (by decide) (by rw [hexecution])
    refine ⟨first, second, ?_, ?_, hshows.jobs_eq⟩
    · rw [← htemplate hfirst.arises]
      exact hfirst.moved
    · rw [← htemplate hsecond]
      exact hmoved
  · obtain ⟨only, honly⟩ := fresh_run_falls_back_once site default _ 0 "" 3 ∅ []
      [(some n2dQuotaError, false)] rfl (by decide) (by decide) hextra (hsmooth _)
    have hexecution : only.execution =
        { job := only.job kind, error := some n2dQuotaError } := honly.arises.executed
    have hunasked : only.requested kind = [] := by
      by_contra hasked
      have hreported := honly.requested_iff.mp hasked
      rw [hexecution] at hreported
      exact not_reported_n2dQuotaError hreported
    have hshows := honly.unrequested hunasked
    rw [hexecution] at hshows
    refine ⟨only, ?_, hshows⟩
    rw [← htemplate honly.arises]
    exact honly.moved

end Runner

end ImageFlow
