import ImageFlow.Proofs.Run.Fallback

/-!
# Runs of one runner, one after another

A runner keeps its hooks from one run to the next, and with them what they have learned.  The
selection of a machine series learns one thing, that the quota of its first series was reported to
be exhausted, and never forgets it.  Whether a run begins on the first series is therefore decided
by all attempts that the runner has ever executed.
-/

namespace ImageFlow

variable {η ω : Type}

/-- A run that a runner is asked for: what it is given, the limit and the token that are set before
it, and the world in which it begins. -/
structure RunRequest (ω : Type) where
  vars : Variables := ∅
  names : List String := []
  maxAttempts : Nat := defaultMaxAttempts
  fired : Bool := false
  world : ω

namespace Runner

section Serve

variable (site : Site ω) (kind : HookKind η)

/-- The runner with the limit and the token of a request. -/
def setUp (runner : Runner η) (request : RunRequest ω) : Runner η :=
  { runner.withMaxAttempts request.maxAttempts with cancelled := request.fired }

def serve (runner : Runner η) (request : RunRequest ω) : Outcome η ω :=
  (runner.setUp request).run site kind request.vars request.names request.world

/-- The history of the run of a request. -/
def served (runner : Runner η) (request : RunRequest ω) : History η :=
  (runner.setUp request).history site kind request.vars request.world

/-- The runner after the runs of these requests. -/
def serveAll : Runner η → List (RunRequest ω) → Runner η
  | runner, [] => runner
  | runner, request :: rest => serveAll (runner.serve site kind request).runner rest

/-- All attempts of the runs of these requests that reach the engine, in order. -/
def trialsOf : Runner η → List (RunRequest ω) → List (Trial η)
  | _, [] => []
  | runner, request :: rest =>
    (runner.served site kind request).trials
      ++ trialsOf (runner.serve site kind request).runner rest

/-- After any runs, the hooks have learned from all attempts that reached the engine, in order. -/
theorem hooks_serveAll (runner : Runner η) (requests : List (RunRequest ω)) :
    (runner.serveAll site kind requests).hooks =
      (runner.trialsOf site kind requests).foldl
        (fun hooks trial => judged kind hooks trial.execution.error) runner.hooks := by
  induction requests generalizing runner with
  | nil => rfl
  | cons request rest ih =>
      rw [serveAll, ih, trialsOf, List.foldl_append]
      congr 1
      exact (runner.setUp request).hooks_run site kind request.vars request.names request.world

end Serve

end Runner

/-! ## Chains over many runs -/

namespace SeriesChain

variable (chain : SeriesChain) (files : FileNode)

/-- Outcomes move a chain to its second state for good, and only if one of them reports that the
quota of the first series is exhausted. -/
theorem exists_foldl_judged (state : FallbackState) (trials : List (Trial Builtin)) :
    ∃ after,
      trials.foldl (fun hooks trial => judged (Builtin.kind files) hooks trial.execution.error)
          (chain.hooks state) = chain.hooks after ∧
      (after = .fallenBack ↔ state = .fallenBack ∨
        ∃ trial ∈ trials, Quota.Reported chain.primary trial.execution.error) := by
  induction trials generalizing state with
  | nil => exact ⟨state, rfl, by simp⟩
  | cons trial rest ih =>
      obtain ⟨after, hhooks, hafter⟩ := ih (chain.after state trial.execution.error)
      refine ⟨after, ?_, ?_⟩
      · rw [List.foldl_cons, chain.judged_hooks]
        exact hhooks
      · rw [hafter, chain.after_eq_fallenBack_iff, List.exists_mem_cons_iff, or_assoc]

variable (site : Site ω) (runner : Runner Builtin) (earlier : List (RunRequest ω))

/-- Some attempt of the earlier runs reported that the quota of the first series is exhausted. -/
def Spent : Prop :=
  ∃ trial ∈ runner.trialsOf site (Builtin.kind files) earlier,
    Quota.Reported chain.primary trial.execution.error

variable {runner} (hhooks : runner.hooks = chain.hooks .primary)

include hhooks

/-- After any runs the chain is in one of its states, and in the second one exactly when it was
moved there by an attempt of one of them. -/
theorem exists_hooks_serveAll :
    ∃ state,
      (runner.serveAll site (Builtin.kind files) earlier).hooks = chain.hooks state ∧
      (state = .fallenBack ↔ chain.Spent files site runner earlier) := by
  obtain ⟨state, hstate, hspent⟩ := chain.exists_foldl_judged files .primary
    (runner.trialsOf site (Builtin.kind files) earlier)
  refine ⟨state, ?_, by simpa [Spent] using hspent⟩
  rw [Runner.hooks_serveAll, hhooks, hstate]

theorem hooks_of_spent (hspent : chain.Spent files site runner earlier) :
    (runner.serveAll site (Builtin.kind files) earlier).hooks = chain.hooks .fallenBack := by
  obtain ⟨state, hstate, hiff⟩ := chain.exists_hooks_serveAll files site earlier hhooks
  rw [hstate, hiff.mpr hspent]

theorem hooks_of_not_spent (hunspent : ¬ chain.Spent files site runner earlier) :
    (runner.serveAll site (Builtin.kind files) earlier).hooks = chain.hooks .primary := by
  obtain ⟨state, hstate, hiff⟩ := chain.exists_hooks_serveAll files site earlier hhooks
  cases state with
  | primary => exact hstate
  | fallenBack => exact absurd (hiff.mp rfl) hunspent

end SeriesChain

/-! ## A runner that fell back -/

def n2Runner : Runner Builtin :=
  .withDefaults { workerMachineSeries := ["n2", "n1"] } 0 id "" 3 []

/-- The chain of `n2Runner`. -/
def n2Chain : SeriesChain :=
  .ofEnvironment (Environment.withExecutionId { workerMachineSeries := ["n2", "n1"] } 0) ""
    "n2" "n1" (by decide) [] (by simp)

/-- A run whose first attempt exhausts the quota of `n2`. -/
def exhaustedRun : RunRequest (List (Option WorkflowError × Bool)) :=
  { world := [(some n2QuotaError, false)] }

def plainRun : RunRequest (List (Option WorkflowError × Bool)) :=
  { world := [] }

theorem hooks_n2Runner : n2Runner.hooks = n2Chain.hooks .primary :=
  SeriesChain.hooks_withDefaults _ 0 "" (by decide) (by simp) rfl (by decide) 3

theorem smooth_of_n2Chain
    (runner : Runner Builtin) {state : FallbackState} (hhooks : runner.hooks = n2Chain.hooks state)
    (vars : Variables) (world : List (Option WorkflowError × Bool)) :
    (runner.history (.scripted oneWorker) (Builtin.kind default) vars world).Smooth := by
  apply n2Chain.history_smooth _ default runner vars world hhooks
  intro state world
  exact ⟨oneWorker, rfl, by cases state <;> exact ⟨rfl, rfl, rfl, rfl, trivial⟩⟩

theorem spent_n2Chain :
    n2Chain.Spent default (.scripted oneWorker) n2Runner [exhaustedRun] := by
  have hsmooth : (historyFrom (.scripted oneWorker) (Builtin.kind default) ∅ 2 n2Runner.hooks false
      exhaustedRun.world).Smooth :=
    smooth_of_n2Chain (n2Runner.setUp exhaustedRun) hooks_n2Runner ∅ exhaustedRun.world
  obtain ⟨first, harises⟩ := exists_arises_of_smooth hsmooth
  have hexecution : first.execution =
      { job := first.job (Builtin.kind default), error := some n2QuotaError } := harises.executed
  refine ⟨first, ?_, ?_⟩
  · rw [Runner.trialsOf, Runner.trialsOf, List.append_nil]
    exact mem_trials_historyFrom harises
  · rw [hexecution]
    exact reported_n2QuotaError

theorem hooks_after_exhaustedRun :
    (n2Runner.serveAll (.scripted oneWorker) (Builtin.kind default) [exhaustedRun]).hooks =
      n2Chain.hooks .fallenBack :=
  n2Chain.hooks_of_spent default (.scripted oneWorker) [exhaustedRun] hooks_n2Runner spent_n2Chain

theorem smooth_plainRun :
    ((n2Runner.serveAll (.scripted oneWorker) (Builtin.kind default) [exhaustedRun]).served
      (.scripted oneWorker) (Builtin.kind default) plainRun).Smooth :=
  smooth_of_n2Chain _ hooks_after_exhaustedRun ∅ plainRun.world

namespace Runner

/-- A runner with the chain that every run gets, a first and a second series, and no further hooks,
after any runs.  A run with an unfired token, in which every template is loaded and prepared, begins
on the first series and can fall back once if no attempt of an earlier run reported that the quota
of that series is exhausted.  Otherwise it makes one attempt, on the second series, and never
repeats it. -/
theorem later_run_falls_back_iff_unspent
    (site : Site ω) (files : FileNode) (env : Environment) (random : Nat)
    (troubleshootingUrl : String) (setting : Nat) {primary secondary : String}
    {others : List String} (earlier : List (RunRequest ω)) (request : RunRequest ω)
    (hseries : env.workerMachineSeries = primary :: secondary :: others)
    (hprimary : primary ≠ "") (hsecondary : secondary ≠ "") (hunfired : request.fired = false)
    (hsmooth : (((withDefaults env random id troubleshootingUrl setting []).serveAll site
      (Builtin.kind files) earlier).served site (Builtin.kind files) request).Smooth) :
    let kind := Builtin.kind files
    let fresh := withDefaults env random id troubleshootingUrl setting []
    let used := fresh.serveAll site kind earlier
    let outcome := used.serve site kind request
    let spent := ∃ trial ∈ fresh.trialsOf site kind earlier,
      Quota.Reported primary trial.execution.error
    (¬ spent → ∃ first : Trial Builtin,
      FallsBackOnce site kind request.vars request.names used.hooks id primary secondary
        (max 1 request.maxAttempts) request.world outcome first) ∧
    (spent → ∃ first : Trial Builtin,
      first.Arises site kind request.vars used.hooks request.world ∧
      first.template.MovedTo secondary (first.job kind).workflow ∧
      first.requested kind = [] ∧
      outcome.Shows [first.job kind] (first.execution.outcome id request.names)) := by
  intro kind fresh used outcome spent
  have hextra : ∀ hook ∈ ([] : List Builtin), hook.selectsSeries = false := by
    simp
  let chain := SeriesChain.ofEnvironment (env.withExecutionId random) troubleshootingUrl primary
    secondary hprimary [] hextra
  have hhooks : fresh.hooks = chain.hooks .primary :=
    SeriesChain.hooks_withDefaults env random troubleshootingUrl hprimary hextra hseries hsecondary
      setting
  have hback : handedOn kind chain.back = id :=
    SeriesChain.handedOn_back_ofEnvironment (env.withExecutionId random) troubleshootingUrl
      hprimary hextra files
  constructor
  · intro hunspent
    have hused : used.hooks = chain.hooks .primary :=
      chain.hooks_of_not_spent files site earlier hhooks hunspent
    obtain ⟨first, hfirst⟩ := chain.run_primary site files (used.setUp request) request.vars
      request.names request.world hused hunfired hsmooth
    rw [hback] at hfirst
    exact ⟨first, hfirst⟩
  · intro hspent
    have hused : used.hooks = chain.hooks .fallenBack :=
      chain.hooks_of_spent files site earlier hhooks hspent
    obtain ⟨first, harises, hmoved, hunasked, hshows⟩ := chain.run_fallenBack site files
      (used.setUp request) request.vars request.names request.world hused hunfired hsmooth
    rw [hback] at hshows
    exact ⟨first, harises, hmoved, hunasked, hshows⟩

/-- After a run that fell back, the next one makes its only attempt on the second series. -/
theorem later_run_on_n1 :
    let kind := Builtin.kind default
    let used := n2Runner.serveAll (.scripted oneWorker) kind [exhaustedRun]
    ∃ first : Trial Builtin,
      first.template.MovedTo "n1" (first.job kind).workflow ∧
      (used.serve (.scripted oneWorker) kind plainRun).Shows [first.job kind] (.ok ∅) := by
  intro kind used
  have hspent := spent_n2Chain
  obtain ⟨first, harises, hmoved, -, hshows⟩ :=
    (later_run_falls_back_iff_unspent (.scripted oneWorker) default _ 0 "" 3 [exhaustedRun] plainRun
      rfl (by decide) (by decide) rfl smooth_plainRun).2 hspent
  have hexecution : first.execution = { job := first.job kind } := harises.executed
  have hnothing : Execution.outcome id plainRun.names first.execution = .ok ∅ := by
    rw [hexecution]
    exact congrArg Except.ok (OrderedMap.restrict_nil _)
  rw [hnothing] at hshows
  exact ⟨first, hmoved, hshows⟩

/-- The run after one that fell back has an unfired token, yet it does not begin on the first
series. -/
theorem not_later_run_on_n2 :
    let kind := Builtin.kind default
    let used := n2Runner.serveAll (.scripted oneWorker) kind [exhaustedRun]
    ¬ ∀ first : Trial Builtin,
      first.Arises (.scripted oneWorker) kind plainRun.vars used.hooks plainRun.world →
        first.template.MovedTo "n2" (first.job kind).workflow := by
  intro kind used hprimary
  obtain ⟨first, harises⟩ : ∃ first : Trial Builtin,
      first.Arises (.scripted oneWorker) kind plainRun.vars used.hooks plainRun.world :=
    exists_arises_of_smooth smooth_plainRun
  have htemplate : first.template = oneWorker := (Except.ok.inj harises.loaded).symm
  have hn2 := hprimary first harises
  rw [hooks_after_exhaustedRun] at harises
  have hn1 := harises.movedTo
  rw [htemplate] at hn2 hn1
  have hseries : "n2" = "n1" := hn2.series_eq hn1 List.mem_cons_self (by decide)
  exact absurd hseries (by decide)

end Runner

end ImageFlow
