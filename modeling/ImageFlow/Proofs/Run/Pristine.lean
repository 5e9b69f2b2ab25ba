import ImageFlow.Proofs.Run.Calls

/-!
# Every attempt starts from its own template

The job that the engine is handed in an attempt is the template of that attempt as the hooks prepare
it.  From the attempts before, the hooks know the errors, and the site is in the state that they left
it in; what was written into their jobs is gone.  An engine that leaves any other jobs behind, and
otherwise does the same, therefore sees the same calls (`historyFrom_leaving`).

The jobs that are left have one reader: the values of the last one are the outputs of the run, under
the names that are asked for.
-/

namespace ImageFlow

variable {η ω : Type}

/-! ## Values that are read -/

/-- Only which names are asked for matters, not their order or number. -/
theorem readOutputs_congr
    {names others : List String} (h : ∀ name, name ∈ others ↔ name ∈ names) (job : Job) :
    readOutputs job others = readOutputs job names := by
  apply OrderedMap.ext_get?
  intro name
  simp only [get?_readOutputs, h]

theorem settle_congr
    {names others : List String} (h : ∀ name, name ∈ others ↔ name ∈ names)
    (job : Job) (error : Option WorkflowError) (p : Progress η ω) :
    settle others job error p = settle names job error p := by
  cases error with
  | none => simp only [settle, readOutputs_congr h]
  | some error => rfl

theorem attemptsFrom_congr
    (site : Site ω) (kind : HookKind η) (vars : Variables)
    {names others : List String} (h : ∀ name, name ∈ others ↔ name ∈ names)
    (left number : Nat) (p : Progress η ω) :
    attemptsFrom site kind vars others left number p =
      attemptsFrom site kind vars names left number p := by
  induction left using Nat.strongRecOn generalizing number p with
  | _ left ih =>
      rw [attemptsFrom, attemptsFrom]
      cases attempt site kind vars number p with
      | mk ending q =>
          cases ending with
          | stopped error => rfl
          | settled job error => exact settle_congr h job error q
          | repeated requested error =>
              cases left with
              | zero => rfl
              | succ left => exact ih left (Nat.lt_succ_self left) (number + 1) _

/-- Attempts that succeed hand out the values of the last job. -/
theorem History.exists_settled_of_ok
    {kind : HookKind η} {names : List String} {number : Nat} {history : History η}
    {outputs : OrderedMap String} (h : history.result kind names number = .ok outputs) :
    ∃ trial, history.last = .settled trial ∧
      outputs = trial.execution.job.outputs.restrict names := by
  obtain ⟨repeated, last⟩ := history
  cases last with
  | settled trial =>
      rw [result, LastAttempt.result, Trial.outcome_eq] at h
      cases herror : trial.error kind with
      | none =>
          rw [herror] at h
          exact ⟨trial, rfl, (Except.ok.inj h).symm⟩
      | some error =>
          rw [herror] at h
          cases h
  | _ => cases h

/-! ## Where an attempt starts -/

/-- An attempt arises from the hooks that have judged the errors of all attempts before it. -/
theorem Trial.Consecutive.arises
    {site : Site ω} {kind : HookKind η} {vars : Variables} {hooks : List η} {world : ω}
    {trials : List (Trial η)} (h : Trial.Consecutive site kind vars hooks world trials)
    {k : Nat} {trial : Trial η} (htrial : trials[k]? = some trial) :
    trial.Arises site kind vars
      (judgedAlong kind hooks ((trials.take k).map (·.execution.error)))
      (Trial.worldLeft site kind vars world (trials.take k)) := by
  induction trials generalizing hooks world k with
  | nil => cases htrial
  | cons first rest ih =>
      obtain ⟨harises, hrest⟩ := h
      cases k with
      | zero =>
          obtain rfl : first = trial := Option.some.inj htrial
          exact harises
      | succ k =>
          have hafter : first.hooksAfter kind = judged kind hooks first.execution.error := by
            rw [Trial.hooksAfter, harises.hooks_eq]
          rw [hafter] at hrest
          exact ih hrest htrial

/-! ## Jobs that are left behind -/

/-- The site whose engine leaves the jobs that `write` says.  Its errors, what it does to the token
and how it changes the world stay the same. -/
def Site.leaving (site : Site ω) (write : Job → Variables → Bool → ω → Job) : Site ω :=
  { site with
    execute := fun job vars fired world =>
      let (execution, world') := site.execute job vars fired world
      ({ execution with job := write job vars fired world }, world') }

/-- The attempt whose engine leaves another job. -/
def Trial.withJob (trial : Trial η) (job : Job) : Trial η :=
  { trial with execution := { trial.execution with job } }

section Leaving

variable (site : Site ω) (kind : HookKind η) (vars : Variables)
  (write : Job → Variables → Bool → ω → Job)

theorem Trial.Arises.leaving
    {hooks : List η} {world : ω} {trial : Trial η}
    (h : trial.Arises site kind vars hooks world) :
    ∃ job, (trial.withJob job).Arises (site.leaving write) kind vars hooks world := by
  obtain ⟨hhooks, hloaded, hprepared, hexecuted⟩ := h
  refine ⟨write (trial.job kind) vars false (site.load world).2, hhooks, hloaded, hprepared, ?_⟩
  rw [withJob, hexecuted]
  rfl

/-- What the engine leaves in the jobs has no influence on the calls. -/
theorem historyFrom_leaving (left : Nat) (hooks : List η) (fired : Bool) (world : ω) :
    (historyFrom (site.leaving write) kind vars left hooks fired world).calls kind =
      (historyFrom site kind vars left hooks fired world).calls kind := by
  induction left using Nat.strongRecOn generalizing hooks fired world with
  | _ left ih =>
      cases fired with
      | true =>
          rw [historyFrom, historyFrom]
          rfl
      | false =>
          cases hloaded : (site.load world).1 with
          | error failure =>
              have hother : ((site.leaving write).load world).1 = .error failure := hloaded
              rw [historyFrom, historyFrom, hloaded, hother]
          | ok template =>
              have hother : ((site.leaving write).load world).1 = .ok template := hloaded
              cases hprepared : (prepareAll kind 0 hooks (.ofWorkflow template)).failure with
              | some found =>
                  rw [historyFrom, historyFrom, hloaded, hother]
                  simp only [hprepared]
              | none =>
                  have hall := (failure_prepareAll_eq_none_iff kind 0 hooks _).mp hprepared
                  obtain ⟨trial, harises⟩ := exists_arises site kind vars hloaded hall
                  obtain ⟨job, hleaving⟩ := harises.leaving site kind vars write
                  -- both attempts have the same hooks, template and error
                  have hrequested : (trial.withJob job).requested kind = trial.requested kind := rfl
                  have hcalls : (trial.withJob job).block kind = trial.block kind := rfl
                  rw [historyFrom_of_arises site kind vars left harises,
                    historyFrom_of_arises _ kind vars left hleaving, hrequested]
                  split
                  · simpa [History.calls, LastAttempt.calls] using hcalls
                  · cases left with
                    | zero => simpa [History.calls, LastAttempt.calls] using hcalls
                    | succ left =>
                        simp only [History.calls_following, hcalls]
                        congr 1
                        exact ih left (Nat.lt_succ_self left) _ _ _

end Leaving

/-! ## Runs -/

namespace Runner

/-- Every attempt starts from its own template.  The engine is handed one job for each attempt that
reaches it: the template that was loaded for this attempt, with every hook in order having prepared
it, where the hooks have judged the errors of the attempts before and learned nothing else.  An engine
that leaves any other jobs behind makes no difference to the calls of the run, so none to the jobs
that are handed over.  A run that succeeds hands out what the last of its jobs holds under the names
that are asked for, and nothing else.  It is the same run for any names among which the same ones
occur. -/
theorem attempts_start_from_templates
    (site : Site ω) (kind : HookKind η) (runner : Runner η) (vars : Variables)
    (names : List String) (world : ω) :
    let outcome := runner.run site kind vars names world
    let jobs := outcome.calls.filterMap RunCall.job?
    let trials := (runner.history site kind vars world).trials
    jobs.length = trials.length ∧
    (∀ k trial, trials[k]? = some trial →
      let earlier := trials.take k
      let hooks := judgedAlong kind runner.hooks (earlier.map (·.execution.error))
      trial.Arises site kind vars hooks (Trial.worldLeft site kind vars world earlier) ∧
        jobs[k]? = some (leftBy kind hooks (.ofWorkflow trial.template))) ∧
    (∀ write : Job → Variables → Bool → ω → Job,
      (runner.run (site.leaving write) kind vars names world).calls = outcome.calls) ∧
    (∀ report, outcome.result = .ok report →
      ∃ last, trials.getLast? = some last ∧
        ∀ name, report.outputs.get? name =
          if name ∈ names then last.execution.job.outputs.get? name else none) ∧
    ∀ others : List String, (∀ name, name ∈ others ↔ name ∈ names) →
      runner.run site kind vars others world = outcome := by
  intro outcome jobs trials
  have hjobs : jobs = trials.map (·.job kind) := by
    rw [← History.filterMap_job?_calls, ← runner.run_calls site kind vars names world]
  refine ⟨by rw [hjobs, List.length_map], ?_, ?_, ?_, ?_⟩
  · intro k trial htrial earlier hooks
    have harises := (runner.consecutive_trials site kind vars world).arises htrial
    have hhooks : trial.hooks = hooks := harises.hooks_eq
    refine ⟨harises, ?_⟩
    rw [hjobs, List.getElem?_map, htrial, ← hhooks]
    rfl
  · intro write
    have hcalls := historyFrom_leaving site kind vars write (runner.maxAttempts - 1) runner.hooks
      runner.cancelled world
    rw [run_calls, history, hcalls]
    exact (runner.run_calls site kind vars names world).symm
  · intro report hreport
    have hresult := runner.run_result site kind vars names world
    rw [show (runner.run site kind vars names world).result = .ok report from hreport] at hresult
    obtain ⟨last, hlast, houtputs⟩ := History.exists_settled_of_ok hresult.symm
    refine ⟨last, by simp [trials, History.trials, hlast], ?_⟩
    intro name
    rw [houtputs, OrderedMap.get?_restrict]
  · intro others hothers
    rw [run, attemptsFrom_congr site kind vars hothers]
    rfl

end Runner

end ImageFlow
