import ImageFlow.Proofs.Run.Calls
import ImageFlow.Proofs.Run.Limit
import ImageFlow.Proofs.Run.Session

/-!
# Cancellation

A fired token keeps a run from beginning another attempt, and does nothing else.  The second half of
this is a statement about two runs: whatever does not end as cancelled is the run that the same site
gives when its engine never fires the token.  The first half holds of later runs as well, since a
token that was fired stays fired.
-/

namespace ImageFlow

variable {η ω : Type}

/-! ## The same run without cancellation -/

/-- The site with an engine that does the same, but never fires the token. -/
def Site.withoutCancellation (site : Site ω) : Site ω :=
  { site with
    execute := fun job vars fired world =>
      let (execution, world) := site.execute job vars fired world
      ({ execution with cancels := false }, world) }

/-- The run with an unfired token. -/
def Progress.unfired (p : Progress η ω) : Progress η ω :=
  { p with cancelled := false }

theorem Progress.unfired_of_not_cancelled
    {p : Progress η ω} (hunfired : p.cancelled = false) : p.unfired = p := by
  rw [unfired, ← hunfired]

section WithoutCancellation

variable (site : Site ω) (kind : HookKind η) (vars : Variables) {p : Progress η ω}

theorem execute_withoutCancellation (job : Job) (hunfired : p.cancelled = false) :
    execute site.withoutCancellation kind vars job p =
      ((execute site kind vars job p).1, (execute site kind vars job p).2.unfired) := by
  simp only [execute, Site.withoutCancellation, hunfired, Bool.or_false]
  split
  · rfl
  · rfl

theorem prepareAndExecute_withoutCancellation
    (number : Nat) (template : Workflow) (hunfired : p.cancelled = false) :
    prepareAndExecute site.withoutCancellation kind vars number template p =
      ((prepareAndExecute site kind vars number template p).1,
        (prepareAndExecute site kind vars number template p).2.unfired) := by
  obtain ⟨hooks, fired, audit, world, events, calls⟩ := p
  obtain rfl : fired = false := hunfired
  cases hprepared : (prepareAll kind 0 hooks (.ofWorkflow template)).failure with
  | some found =>
      simp only [prepareAndExecute, Progress.report, hprepared]
      rfl
  | none =>
      simp only [prepareAndExecute, Progress.report, hprepared]
      exact execute_withoutCancellation site kind vars _ rfl

theorem attempt_withoutCancellation (number : Nat) (hunfired : p.cancelled = false) :
    attempt site.withoutCancellation kind vars number p =
      ((attempt site kind vars number p).1, (attempt site kind vars number p).2.unfired) := by
  obtain ⟨hooks, fired, audit, world, events, calls⟩ := p
  obtain rfl : fired = false := hunfired
  have hload : site.withoutCancellation.load = site.load := rfl
  cases hloaded : (site.load world).1 with
  | error failure =>
      simp only [attempt, Progress.record, Progress.listing, hload, hloaded, Bool.false_eq_true,
        if_false]
      rfl
  | ok template =>
      simp only [attempt, Progress.record, Progress.listing, hload, hloaded, Bool.false_eq_true,
        if_false]
      exact prepareAndExecute_withoutCancellation site kind vars number template rfl

/-- Attempts that do not end as cancelled are those that the same site gives when its engine never
fires the token. -/
theorem attemptsFrom_withoutCancellation
    (names : List String) {left number : Nat} (hunfired : p.cancelled = false)
    (hresult : ∀ attempt,
      (attemptsFrom site kind vars names left number p).1 ≠ .error (.cancelled attempt)) :
    attemptsFrom site.withoutCancellation kind vars names left number p =
      ((attemptsFrom site kind vars names left number p).1,
        (attemptsFrom site kind vars names left number p).2.unfired) := by
  induction left using Nat.strongRecOn generalizing number p with
  | _ left ih =>
      have hattempt := attempt_withoutCancellation site kind vars number hunfired
      rw [attemptsFrom] at hresult ⊢
      rw [attemptsFrom, hattempt]
      cases hend : attempt site kind vars number p with
      | mk ending q =>
          rw [hend] at hresult
          cases ending with
          | stopped error => rfl
          | settled job error => cases error <;> rfl
          | repeated requested error =>
              cases left with
              | zero => rfl
              | succ left =>
                  cases hfired : q.cancelled with
                  | true =>
                      obtain ⟨events, hcancelled⟩ := attempt_of_cancelled site kind vars
                        (number + 1) (p := goOn site number requested q) hfired
                      have hended := hresult (number + 1)
                      simp only at hended
                      rw [attemptsFrom, hcancelled] at hended
                      exact absurd rfl hended
                  | false =>
                      have hkept : q.unfired = q := Progress.unfired_of_not_cancelled hfired
                      simp only [hkept]
                      exact ih left (Nat.lt_succ_self left) hfired hresult

end WithoutCancellation

/-! ## Attempts around a fired token -/

/-- An attempt that settles a run does not cancel it. -/
theorem Trial.outcome_ne_cancelled
    (kind : HookKind η) (names : List String) (attempt : Nat) (trial : Trial η) :
    trial.outcome kind names ≠ .error (.cancelled attempt) := by
  rw [Trial.outcome_eq]
  cases trial.error kind with
  | none => simp
  | some error => simp

namespace Unfolds

variable {site : Site ω} {kind : HookKind η} {vars : Variables} {names : List String}
  {left number : Nat} {p : Progress η ω} {history : History η}
  {ending : Except RunError (OrderedMap String) × Progress η ω}

/-- A fired token ends the attempts before the first of them. -/
theorem result_of_fired
    (h : Unfolds site kind vars names left number p history ending) (hfired : p.cancelled = true) :
    history.calls kind = [] ∧ ending.1 = .error (.cancelled number) := by
  cases h with
  | cancelled => exact ⟨rfl, rfl⟩
  | unloaded unfired => simp [unfired] at hfired
  | unprepared unfired => simp [unfired] at hfired
  | settled unfired => simp [unfired] at hfired
  | limited unfired => simp [unfired] at hfired
  | repeated unfired => simp [unfired] at hfired

/-- The token is fired afterwards exactly when it was fired before or during an attempt. -/
theorem cancelled_iff
    (h : Unfolds site kind vars names left number p history ending) :
    ending.2.cancelled = true ↔
      p.cancelled = true ∨ ∃ trial ∈ history.trials, trial.execution.cancels = true := by
  induction h with
  | cancelled => simp [History.trials]
  | unloaded => simp [History.trials, Progress.opened]
  | unprepared => simp [History.trials, Progress.afterFailure]
  | settled unfired => simp [History.trials, Progress.afterTrial, unfired]
  | limited unfired => simp [History.trials, Progress.afterTrial, unfired]
  | repeated unfired _ _ _ ih =>
      rw [ih]
      simp [Progress.record, Progress.afterTrial, unfired]

/-- What comes of attempts during one of which the token was fired. -/
theorem result_of_cancels
    (h : Unfolds site kind vars names left number p history ending)
    {earlier later : List (Trial η)} {trial : Trial η}
    (htrials : history.trials = earlier ++ trial :: later)
    (hcancels : trial.execution.cancels = true) :
    (trial.requested kind = [] → ending.1 = trial.outcome kind names) ∧
    (trial.requested kind ≠ [] → earlier.length < left →
      ending.1 = .error (.cancelled (number + earlier.length + 1))) ∧
    (trial.requested kind ≠ [] → left ≤ earlier.length →
      ending.1 = .error (.attemptLimit (number + earlier.length) (trial.error kind))) := by
  induction h generalizing earlier with
  | cancelled => simp [History.trials] at htrials
  | unloaded => simp [History.trials] at htrials
  | unprepared => simp [History.trials] at htrials
  | settled _ _ unasked =>
      obtain ⟨rfl, rfl, rfl⟩ : earlier = [] ∧ trial = _ ∧ later = [] := by
        simpa [History.trials, List.singleton_eq_append_iff] using htrials
      exact ⟨fun _ => rfl, fun asked => absurd unasked asked, fun asked => absurd unasked asked⟩
  | limited _ _ asked =>
      obtain ⟨rfl, rfl, rfl⟩ : earlier = [] ∧ trial = _ ∧ later = [] := by
        simpa [History.trials, List.singleton_eq_append_iff] using htrials
      exact ⟨fun unasked => absurd unasked asked, fun _ hleft => absurd hleft (Nat.lt_irrefl 0),
        fun _ _ => rfl⟩
  | @repeated left number p first history ending events _ _ asked next ih =>
      rw [History.trials_following] at htrials
      cases earlier with
      | nil =>
          obtain ⟨rfl, rfl⟩ := List.cons.inj htrials
          have hended := (next.result_of_fired hcancels).2
          exact ⟨fun unasked => absurd unasked asked, fun _ _ => hended,
            fun _ hleft => absurd hleft (Nat.not_succ_le_zero left)⟩
      | cons other earlier =>
          have hnumber : number + 1 + earlier.length = number + (earlier.length + 1) := by
            omega
          have hrest := ih (List.cons.inj htrials).2
          rw [hnumber] at hrest
          simpa using hrest

end Unfolds

/-! ## Runs on one token -/

namespace Runner

section OneToken

variable (site : Site ω) (kind : HookKind η) (runner : Runner η)

/-- A run that does not end as cancelled has the result that it has when the engine never fires the
token. -/
theorem result_withoutCancellation
    (vars : Variables) (names : List String) (world : ω) (hunfired : runner.cancelled = false)
    (hresult : ∀ attempt,
      (runner.run site kind vars names world).result.map RunReport.outputs ≠
        .error (.cancelled attempt)) :
    (runner.run site.withoutCancellation kind vars names world).result =
      (runner.run site kind vars names world).result := by
  have hstarted : (runner.start site world).cancelled = false := hunfired
  have hended (attempt : Nat) :
      (attemptsFrom site kind vars names (runner.maxAttempts - 1) 1
        (runner.start site world)).1 ≠ .error (.cancelled attempt) := by
    intro hcancelled
    apply hresult attempt
    rw [run_result, ← (runner.unfolds site kind vars names world).result_eq, hcancelled]
  have hattempts := attemptsFrom_withoutCancellation site kind vars names hstarted hended
  have hstart : runner.start site.withoutCancellation world = runner.start site world := rfl
  rw [run, hstart, hattempts]
  rfl

/-- The runner with the limit of a request, on the token that it has: a token that was fired is not
unfired by a request. -/
def keepToken (request : RunRequest ω) : Runner η :=
  { runner.withMaxAttempts request.maxAttempts with
    cancelled := runner.cancelled || request.fired }

/-- What the runs of these requests leave behind, made one after another on one token. -/
def outcomesOnToken : Runner η → List (RunRequest ω) → List (Outcome η ω)
  | _, [] => []
  | runner, request :: rest =>
    let outcome :=
      (runner.keepToken request).run site kind request.vars request.names request.world
    outcome :: outcomesOnToken outcome.runner rest

variable {runner}

theorem run_of_fired
    (vars : Variables) (names : List String) (world : ω) (hfired : runner.cancelled = true) :
    (runner.run site kind vars names world).calls = [] ∧
      (runner.run site kind vars names world).result = .error (.cancelled 1) ∧
      (runner.run site kind vars names world).runner.cancelled = true := by
  have hunfolds := runner.unfolds site kind vars names world
  obtain ⟨hcalls, hresult⟩ := hunfolds.result_of_fired hfired
  refine ⟨?_, ?_, hunfolds.cancelled_iff.mpr (.inl hfired)⟩
  · rw [run_calls, hcalls]
  · rw [run_result_eq_error_iff, ← hunfolds.result_eq, hresult]

/-- On a fired token no run makes any call. -/
theorem outcomesOnToken_of_fired
    (requests : List (RunRequest ω)) (hfired : runner.cancelled = true) :
    ∀ outcome ∈ runner.outcomesOnToken site kind requests,
      outcome.calls = [] ∧ outcome.result = .error (.cancelled 1) := by
  induction requests generalizing runner with
  | nil => simp [outcomesOnToken]
  | cons request rest ih =>
      have hkept : (runner.keepToken request).cancelled = true := by
        simp [keepToken, hfired]
      obtain ⟨hcalls, hresult, hstill⟩ :=
        run_of_fired site kind request.vars request.names request.world hkept
      intro outcome houtcome
      rcases List.mem_cons.mp houtcome with rfl | hlater
      · exact ⟨hcalls, hresult⟩
      · exact ih hstill outcome hlater

end OneToken

section DuringAttempt

variable (site : Site ω) (kind : HookKind η) (runner : Runner η) (vars : Variables)
  (names : List String) (world : ω)
  {earlier later : List (Trial η)} {trial : Trial η}

/-- The attempt during which the token is fired is the last one, and makes all its calls. -/
theorem calls_of_cancels
    (htrials : (runner.history site kind vars world).trials = earlier ++ trial :: later)
    (hcancels : trial.execution.cancels = true) :
    later = [] ∧ earlier.length + 1 ≤ max 1 runner.maxAttempts ∧
      (runner.run site kind vars names world).calls =
        (runner.history site kind vars world).trials.flatMap (·.block kind) := by
  have hlast : later = [] ∧ (runner.history site kind vars world).last.incomplete kind = [] := by
    have hfollows := (runner.unfolds site kind vars names world).follows_iff htrials
    simpa [hcancels] using hfollows
  have hwithin : (runner.history site kind vars world).trials.length ≤ runner.maxAttempts - 1 + 1 :=
    (runner.history_sound site kind vars world).length_trials_le
  rw [htrials, hlast.1, List.length_append, List.length_singleton] at hwithin
  have hcalls := (runner.history site kind vars world).calls_eq_blocks kind
  rw [hlast.2, List.append_nil] at hcalls
  exact ⟨hlast.1, by omega, (runner.run_calls site kind vars names world).trans hcalls⟩

/-- What comes of a run when the token is fired during one of its attempts. -/
theorem result_of_cancels
    (htrials : (runner.history site kind vars world).trials = earlier ++ trial :: later)
    (hcancels : trial.execution.cancels = true) :
    let outcome := runner.run site kind vars names world
    let M := max 1 runner.maxAttempts
    (trial.Asked kind → earlier.length + 1 < M →
      outcome.result = .error (.cancelled (earlier.length + 2))) ∧
    (trial.Asked kind → earlier.length + 1 = M →
      outcome.result = .error (.attemptLimit (earlier.length + 1) (trial.error kind))) ∧
    (¬ trial.Asked kind →
      outcome.result.map RunReport.outputs = trial.outcome kind names ∧
      outcome.result = (runner.run site.withoutCancellation kind vars names world).result) := by
  intro outcome M
  have hunfolds := runner.unfolds site kind vars names world
  obtain ⟨hsettled, hcancelled, hlimited⟩ := hunfolds.result_of_cancels htrials hcancels
  rw [hunfolds.result_eq, trial.requested_ne_nil_iff kind] at hcancelled hlimited
  refine ⟨?_, ?_, ?_⟩
  · intro hasked hlimit
    apply (runner.run_result_eq_error_iff site kind vars names world _).mpr
    rw [hcancelled hasked (by omega)]
    congr 2
    omega
  · intro hasked hlimit
    apply (runner.run_result_eq_error_iff site kind vars names world _).mpr
    rw [hlimited hasked (by omega), Nat.add_comm 1]
  · intro hunasked
    have hnone : trial.requested kind = [] := by
      simpa [← trial.requested_ne_nil_iff kind] using hunasked
    have hresult : outcome.result.map RunReport.outputs = trial.outcome kind names := by
      rw [← hsettled hnone, hunfolds.result_eq]
      exact runner.run_result site kind vars names world
    have hbegun : (runner.history site kind vars world).trials ≠ [] := by
      rw [htrials]
      exact List.append_ne_nil_of_right_ne_nil earlier (List.cons_ne_nil trial later)
    have hunfired : runner.cancelled = false := hunfolds.begins_iff.mp (.inl hbegun)
    refine ⟨hresult, ?_⟩
    symm
    apply runner.result_withoutCancellation site kind vars names world hunfired
    intro attempt hended
    exact trial.outcome_ne_cancelled kind names attempt (hresult.symm.trans hended)

end DuringAttempt

/-- Cancellation stops the repetition of attempts and nothing else.  With a token that was fired
before it, a run calls nothing and is cancelled before its first attempt.  When the token is fired
during an attempt, that attempt makes all its calls, those of the judgement included, and no attempt
follows it.  If some hook asks for another one, the run is cancelled before it, or meets the limit
if none is left; otherwise the result is that of the attempt, and is the same as if the engine had
never fired the token.  A fired token stays fired, and no later run on it calls anything.  Nor is
the site asked anything more than is listed, as one that writes down what it is asked finds. -/
theorem cancellation_stops_repetition
    (site : Site ω) (kind : HookKind η) (runner : Runner η) (vars : Variables)
    (names : List String) (world : ω) :
    let outcome := runner.run site kind vars names world
    let trials := (runner.history site kind vars world).trials
    let M := max 1 runner.maxAttempts
    Trial.Consecutive site kind vars runner.hooks world trials ∧
    (runner.cancelled = true → outcome.calls = [] ∧ outcome.result = .error (.cancelled 1)) ∧
    (∀ earlier trial later, trials = earlier ++ trial :: later → trial.execution.cancels = true →
      later = [] ∧ earlier.length + 1 ≤ M ∧
      outcome.calls = trials.flatMap (·.block kind) ∧
      (trial.Asked kind → earlier.length + 1 < M →
        outcome.result = .error (.cancelled (earlier.length + 2))) ∧
      (trial.Asked kind → earlier.length + 1 = M →
        outcome.result = .error (.attemptLimit (earlier.length + 1) (trial.error kind))) ∧
      (¬ trial.Asked kind →
        outcome.result.map RunReport.outputs = trial.outcome kind names ∧
        outcome.result = (runner.run site.withoutCancellation kind vars names world).result)) ∧
    (outcome.runner.cancelled = true ↔
      runner.cancelled = true ∨ ∃ trial ∈ trials, trial.execution.cancels = true) ∧
    (outcome.runner.cancelled = true → ∀ requests,
      ∀ later ∈ outcome.runner.outcomesOnToken site kind requests,
        later.calls = [] ∧ later.result = .error (.cancelled 1)) ∧
    runner.run site.recorded kind vars names (world, []) = outcome.recorded vars := by
  intro outcome trials M
  have hunfolds := runner.unfolds site kind vars names world
  refine ⟨runner.consecutive_trials site kind vars world, ?_, ?_, hunfolds.cancelled_iff, ?_,
    runner.run_recorded site kind vars names world⟩
  · intro hfired
    obtain ⟨hcalls, hresult, -⟩ := run_of_fired site kind vars names world hfired
    exact ⟨hcalls, hresult⟩
  · intro earlier trial later htrials hcancels
    obtain ⟨hlast, hwithin, hcalls⟩ :=
      runner.calls_of_cancels site kind vars names world htrials hcancels
    exact ⟨hlast, hwithin, hcalls,
      runner.result_of_cancels site kind vars names world htrials hcancels⟩
  · intro hfired requests
    exact outcomesOnToken_of_fired site kind requests hfired

end Runner

end ImageFlow
